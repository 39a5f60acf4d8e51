import EventIndexer.Settings

/-! The watchers of a configuration: which kinds each follows, and which cursors it moves. -/

namespace EventIndexer

/-- A shared cursor that stays at the lowest height of its members. -/
structure Watermark where
  shared : String
  members : List String
  deriving DecidableEq, Repr

/-- A producer and a consumer over some kinds, and the cursor they own. -/
structure Watcher where
  kinds : List Kind
  key : String
  /-- Set when several watchers share the main cursor. -/
  watermark : Option Watermark
  deriving DecidableEq, Repr

/-- The key of the cursor of the watcher that follows one kind. -/
def watcherKey (cursorKey : String) (kind : Kind) : String := cursorKey ++ ":" ++ kind.name

/-- The watchers of a configuration: one over all its kinds, or one a kind. -/
def Settings.watchers (settings : Settings) : List Watcher :=
  if settings.watcherPerEvent then
    let watermark :=
      { shared := settings.cursorKey
        members := settings.events.map (watcherKey settings.cursorKey) }
    settings.events.map fun kind =>
      { kinds := [kind], key := watcherKey settings.cursorKey kind, watermark := some watermark }
  else [{ kinds := settings.events, key := settings.cursorKey, watermark := none }]

end EventIndexer
