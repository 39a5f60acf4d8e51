import EventIndexer.Proofs.Encoding
import EventIndexer.Proofs.FirstWrite
import EventIndexer.Proofs.Places
import EventIndexer.Proofs.Selecting
import EventIndexer.Proofs.Totals
import Mathlib.Algebra.BigOperators.Group.Finset.Basic

/-! The rewards of logs.  However logs are stored, in whatever batches and however often, the
rewards in the database are those of the logs that come first at their places; and the sums of a
database, also those that are selected by recipient, are what the rewards of these logs come to. -/

namespace EventIndexer

namespace Log

/-- Whether a log stands for a reward. -/
def isReward (log : Log) : Bool := log.event?.any (·.kind == .rewardReferral)

/-- Whether two logs stand in one transaction under one index. -/
def sitsWith (log other : Log) : Bool :=
  log.transaction == other.transaction && log.index == other.index

/-- The logs of rewards among some logs, and of those at one place the first. -/
def rewards (logs : List Log) : Finset Log :=
  logs.toFinset.filter fun log =>
    logs.find? (fun other => other.isReward && other.sitsWith log) = some log

/-- The reward that a log stands for: it goes to the address in the low bytes of a topic. -/
def reward (log : Log) : Reward where
  referral := (log.topic 2).address.checksum
  level := (log.topic 3).lastByte
  amount := log.firstWord.toNat

/-- Whether no two logs of rewards share a place. -/
def Settled (logs : List Log) : Prop :=
  ∀ log ∈ logs, ∀ other ∈ logs, log.isReward → other.isReward → log.sitsWith other → log = other

variable {log other : Log} {logs : List Log} {event : Event}

theorem mem_rewards : log ∈ rewards logs ↔
    logs.find? (fun other => other.isReward && other.sitsWith log) = some log := by
  simp only [rewards, Finset.mem_filter, List.mem_toFinset, and_iff_right_iff_imp]
  exact List.mem_of_find?_eq_some

theorem isReward_of_mem (h : log ∈ rewards logs) : log.isReward = true := by
  have hfound := List.find?_some (mem_rewards.mp h)
  exact (Bool.and_eq_true_iff.mp hfound).1

theorem isReward_iff : log.isReward = true ↔
    ∃ event, log.event? = some event ∧ event.kind = .rewardReferral := by
  simp [isReward, Option.any_eq_true]

theorem sitsWith_iff : log.sitsWith other = true ↔
    log.transaction = other.transaction ∧ log.index = other.index := by
  simp [sitsWith]

/-- Where no two logs of rewards share a place, all logs of rewards are kept. -/
theorem Settled.mem_rewards (h : Settled logs) :
    log ∈ rewards logs ↔ log ∈ logs ∧ log.isReward = true := by
  refine ⟨fun hmem => ⟨?_, isReward_of_mem hmem⟩, fun ⟨hmem, hreward⟩ => ?_⟩
  · exact List.mem_of_find?_eq_some (Log.mem_rewards.mp hmem)
  · have hself : (log.isReward && log.sitsWith log) = true := by simp [hreward, sitsWith]
    rw [Log.mem_rewards]
    cases hfind : logs.find? (fun other => other.isReward && other.sitsWith log) with
    | none => exact absurd hself (List.find?_eq_none.mp hfind log hmem)
    | some first =>
      have hfound := List.find?_some hfind
      obtain ⟨hfirst, hplace⟩ := Bool.and_eq_true_iff.mp hfound
      rw [h first (List.mem_of_find?_eq_some hfind) log hmem hfirst hreward hplace]

theorem Settled.rewards_eq (h : Settled logs) {others : List Log}
    (hsame : ∀ log, log ∈ others ↔ log ∈ logs) : rewards others = rewards logs := by
  have hothers : Settled others := fun a ha b hb =>
    h a ((hsame a).mp ha) b ((hsame b).mp hb)
  ext log
  rw [hothers.mem_rewards, h.mem_rewards, hsame]

/-- What is stored of a reward reads back as the reward. -/
theorem reward?_of_event? (h : log.event? = some event) (hkind : event.kind = .rewardReferral) :
    event.reward? = some log.reward := by
  have hdetails := (Log.event?_eq_some h).2.2
  rw [hkind, Log.details] at hdetails
  split at hdetails
  · cases hdetails
  · split at hdetails
    · cases hdetails
    · have hread : Amount.parse? (toString log.firstWord.toNat) = some log.firstWord.toNat :=
        Amount.parse?_toString log.firstWord.isLt
      simp only [Except.ok.injEq] at hdetails
      simp only [Event.reward?, ← hdetails, Log.arguments, hread, reward, Option.map_some]

theorem key_eq_iff {found : Event} (h : log.event? = some event)
    (hother : other.event? = some found) :
    event.key = found.key ↔ event.kind = found.kind ∧ log.sitsWith other = true := by
  rw [← Event.sameRow_iff_key, sitsWith_iff]
  refine ⟨Log.place_of_sameRow h hother, fun ⟨hkind, htransaction, hindex⟩ => ?_⟩
  obtain ⟨_, i, s, -, hi, hs, -, -, he⟩ := Log.position_eq_ok (Log.event?_eq_some h).2.1
  obtain ⟨_, j, t, -, hj, ht, -, -, hf⟩ := Log.position_eq_ok (Log.event?_eq_some hother).2.1
  rw [hs, ht, Option.some.injEq] at htransaction
  rw [hi, hj, Option.some.injEq] at hindex
  rw [Event.sameRow_iff, he, hf, htransaction, hindex]
  exact ⟨hkind, rfl, rfl⟩

/-- The logs of events with the key of a reward are those of rewards at the same place. -/
theorem any_key_eq (h : log.event? = some event) (hkind : event.kind = .rewardReferral)
    (other : Log) :
    other.event?.any (·.key == event.key) = (other.isReward && other.sitsWith log) := by
  cases hother : other.event? with
  | none => simp [isReward, hother]
  | some found =>
    rw [Bool.eq_iff_iff]
    simp [isReward, hother, key_eq_iff hother h, hkind]

/-- Logs that are kept have different events. -/
theorem eq_of_event? (h : log ∈ rewards logs) (hother : other ∈ rewards logs)
    (hsame : log.event? = other.event?) : log = other := by
  obtain ⟨event, hevent, hkind⟩ := isReward_iff.mp (isReward_of_mem h)
  rw [mem_rewards] at h hother
  simp only [← any_key_eq hevent hkind] at h
  simp only [← any_key_eq (hsame.symm.trans hevent) hkind] at hother
  exact Option.some.inj (h.symm.trans hother)

end Log

/-- The rewards of some logs.  Equal rewards of different logs all count. -/
def Rewards.of (logs : Finset Log) : Multiset Reward := logs.val.map Log.reward

/-! ### Storing logs -/

/-- What is written first to a key is found first. -/
theorem FirstWrites.writeAll_apply (map : FirstWrites) (events : List Event) (key : Event.Key) :
    map.writeAll events key = (map key).or (events.find? (·.key == key)) := by
  induction events generalizing map with
  | nil => simp [writeAll]
  | cons event rest ih =>
    rw [writeAll, List.foldl_cons, ← writeAll, ih, List.find?_cons]
    cases hkey : event.key == key with
    | true =>
      obtain rfl := beq_iff_eq.mp hkey
      cases hmap : map event.key with
      | none => simp [write_of_none hmap]
      | some found => simp [write_of_some hmap, hmap]
    | false =>
      have hne : key ≠ event.key := fun heq => by simp [heq] at hkey
      cases hmap : map event.key with
      | none => simp [write_of_none hmap, Function.update_of_ne hne]
      | some found => simp [write_of_some hmap]

namespace Database

/-- The database after some batches of logs have been decoded and stored. -/
def ingested (batches : List (List Log)) : Database :=
  served {} (batches.map fun logs => { events := (decodeAll logs).1 })

theorem accepted_logs (database : Database) (batches : List (List Log)) :
    database.accepted (batches.map fun logs => { events := (decodeAll logs).1 }) =
      batches.flatten.filterMap Log.event? := by
  induction batches generalizing database with
  | nil => rfl
  | cons logs rest ih =>
    obtain ⟨rows, hrows⟩ : ∃ rows,
        (database.serve { events := (decodeAll logs).1 }).1 = .ok rows :=
      serve_succeeds.mpr ⟨rfl, by simp⟩
    rw [List.map_cons, accepted, ih, hrows, List.flatten_cons, List.filterMap_append,
      decodeAll_events]
    rfl

theorem closed_serve (database : Database) (call : Call) :
    (database.serve call).2.closed = call.closed := by
  cases hresult : (database.serve call).1 with
  | ok rows =>
    obtain ⟨⟨fresh, hafter, -⟩, -, -⟩ := append_ok (serve_eq hresult)
    rw [hafter]
    rfl
  | error failure =>
    rw [append_error (serve_eq hresult)]
    rfl

theorem closed_served {database : Database} (hopen : database.closed = false) {calls : List Call}
    (hcalls : ∀ call ∈ calls, call.closed = false) : (database.served calls).closed = false := by
  induction calls generalizing database with
  | nil => exact hopen
  | cons call rest ih =>
    obtain ⟨hcall, hrest⟩ := List.forall_mem_cons.mp hcalls
    exact ih ((closed_serve database call).trans hcall) hrest

variable {batches : List (List Log)} {event : Event}

theorem closed_ingested (batches : List (List Log)) : (ingested batches).closed = false :=
  closed_served rfl fun call hmem => by
    obtain ⟨logs, -, rfl⟩ := List.mem_map.mp hmem
    rfl

theorem distinct_ingested (batches : List (List Log)) : (ingested batches).Distinct := by
  have hempty : Distinct {} := .nil
  exact (served_writes hempty _).1

/-- The row of a key is what the first log that decodes to an event of this key stands for. -/
theorem mem_ingested : event ∈ (ingested batches).events ↔
    ∃ log, batches.flatten.find? (fun log => log.event?.any (·.key == event.key)) = some log ∧
      log.event? = some event := by
  have hempty : Distinct {} := .nil
  have hnone : (stored {} event.key).or ((batches.flatten.filterMap Log.event?).find?
      (·.key == event.key)) = (batches.flatten.filterMap Log.event?).find? (·.key == event.key) :=
    rfl
  rw [← (distinct_ingested batches).stored_iff, ingested, (served_writes hempty _).2.1,
    FirstWrites.writeAll_apply, accepted_logs, hnone, List.find?_filterMap, Option.bind_eq_some_iff]

/-- A stored reward is that of a log that is kept. -/
theorem mem_ingested_reward (hkind : event.kind = .rewardReferral) :
    event ∈ (ingested batches).events ↔
      ∃ log ∈ Log.rewards batches.flatten, log.event? = some event := by
  rw [mem_ingested]
  refine exists_congr fun log => and_congr_left fun hevent => ?_
  rw [Log.mem_rewards]
  simp only [Log.any_key_eq hevent hkind]

/-- The table of rewards holds the events of the logs that are kept, each once. -/
theorem table_ingested (batches : List (List Log)) :
    (Multiset.ofList ((ingested batches).table .rewardReferral)).map some =
      (Log.rewards batches.flatten).val.map Log.event? := by
  have hstored : ((ingested batches).table .rewardReferral).Nodup :=
    (distinct_ingested batches).nodup.filter _
  have hleft := (Multiset.coe_nodup.mpr hstored).map (Option.some_injective Event)
  have hright : ((Log.rewards batches.flatten).val.map Log.event?).Nodup :=
    (Log.rewards batches.flatten).nodup.map_on fun _ ha _ hb => Log.eq_of_event? ha hb
  refine (hleft.ext hright).mpr fun found => ?_
  simp only [Multiset.mem_map, Multiset.mem_coe, table, List.mem_filter, beq_iff_eq,
    Finset.mem_val]
  constructor
  · rintro ⟨event, ⟨hmem, hkind⟩, rfl⟩
    exact (mem_ingested_reward hkind).mp hmem
  · rintro ⟨log, hlog, rfl⟩
    obtain ⟨event, hevent, hkind⟩ := Log.isReward_iff.mp (Log.isReward_of_mem hlog)
    exact ⟨event, ⟨(mem_ingested_reward hkind).mpr ⟨log, hlog, hevent⟩, hkind⟩, hevent.symm⟩

/-- The stored rewards are those of the logs that are kept. -/
theorem rewards_ingested (batches : List (List Log)) :
    Multiset.ofList ((ingested batches).events.filterMap Event.reward?) =
      Rewards.of (Log.rewards batches.flatten) := by
  have hkinds : (ingested batches).events.filterMap Event.reward? =
      ((ingested batches).table .rewardReferral).filterMap Event.reward? := by
    rw [table, List.filterMap_filter]
    refine List.filterMap_congr fun event _ => ?_
    split
    · rfl
    · next hkind =>
      refine Option.eq_none_iff_forall_not_mem.mpr fun reward hreward => hkind ?_
      exact beq_iff_eq.mpr (Event.kind_of_reward hreward)
  have hread : ((Log.rewards batches.flatten).val.map Log.event?).map (·.bind Event.reward?) =
      (Log.rewards batches.flatten).val.map (some ∘ Log.reward) := by
    rw [Multiset.map_map]
    refine Multiset.map_congr rfl fun log hlog => ?_
    obtain ⟨event, hevent, hkind⟩ := Log.isReward_iff.mp (Log.isReward_of_mem hlog)
    simp [hevent, Log.reward?_of_event? hevent hkind]
  rw [← table_ingested, Multiset.map_map] at hread
  have hsome := congrArg (Multiset.filterMap id) hread
  rw [Multiset.filterMap_map, Multiset.filterMap_map] at hsome
  rw [hkinds, ← Multiset.filterMap_coe]
  exact hsome.trans (congrFun (Multiset.filterMap_eq_map Log.reward) _)

/-! ### Sums of stored logs -/

/-- Every stored event of a reward has an amount. -/
theorem readable_ingested (hmem : event ∈ (ingested batches).events)
    (hkind : event.kind = .rewardReferral) : ∃ reward, event.reward? = some reward := by
  obtain ⟨log, -, hevent⟩ := (mem_ingested_reward hkind).mp hmem
  exact ⟨log.reward, Log.reward?_of_event? hevent hkind⟩

theorem answers_ingested (batches : List (List Log)) (recipient : Option String) :
    Rewards.Answers ((Rewards.of (Log.rewards batches.flatten)).filter (·.goesTo recipient))
      ((ingested batches).rewardSums recipient) := by
  rw [← rewards_ingested]
  exact rewardSums_answers (closed_ingested batches) (fun _ => readable_ingested) recipient

end Database

/-- The rewards of a recipient, told by its text, are those of the logs that name its address. -/
theorem Rewards.filter_checksum (logs : Finset Log) (address : Address) :
    (Rewards.of logs).filter (·.referral = address.checksum) =
      Rewards.of (logs.filter fun log => (log.topic 2).address = address) := by
  have hsame (log : Log) : log.reward.referral = address.checksum ↔
      (log.topic 2).address = address := by
    rw [Log.reward, Address.checksum_inj]
  simp only [Rewards.of, Multiset.filter_map, Function.comp_def, hsame, Finset.filter_val]

/-! ### Selections -/

/-- The rows in which sums are shown, with totals in decimal. -/
def Rewards.rows (sums : List RewardSum) : List Json :=
  sums.map fun sum => .object [("referral", .string sum.referral), ("level", .integer sum.level),
    ("total", .string (toString sum.total))]

theorem Query.rows_rewardsSum (database : Database) (time url : String)
    (referral : Option Address) :
    Query.rows database time { databaseUrl := url, entity := .rewardsSum, referral } =
      (database.rewardSums (referral.map Address.checksum)).map Rewards.rows := by
  simp only [Query.rows, Query.firstHeight, bind, Except.bind]
  cases database.rewardSums (referral.map Address.checksum) <;> rfl

open Rewards in
/-- Logs are stored in any batches, any order and any number of times; of those of rewards the first
at each place is kept.  The sums of all rewards are found exactly if the total of every recipient
and level is below `2 ^ 256`, and then there is one for each of them, in ascending order and exact.
The sums of one recipient are found exactly if its own totals are below the bound, and are its part
of all sums.  As long as no two logs of rewards share a place, nothing depends on how logs were
stored.  A selection by an address, whatever the case of its letters, adds the rewards whose logs
name that address. -/
theorem Database.reward_sums_exact (batches : List (List Log)) :
    let database := ingested batches
    let logs := Log.rewards batches.flatten
    (Multiset.ofList (database.table .rewardReferral)).map some = logs.val.map Log.event? ∧
    Answers (Rewards.of logs) (database.rewardSums none) ∧
    (∀ referral,
      let own := (Rewards.of logs).filter (·.referral = referral)
      Answers own (database.rewardSums (some referral)) ∧
      (own = 0 → database.rewardSums (some referral) = .ok []) ∧
      ∀ sums, database.rewardSums none = .ok sums →
        database.rewardSums (some referral) = .ok (sums.filter (·.referral = referral))) ∧
    (Log.Settled batches.flatten →
      (∀ log, log ∈ logs ↔ log ∈ batches.flatten ∧ log.isReward) ∧
      ∀ others : List (List Log), (∀ log, log ∈ others.flatten ↔ log ∈ batches.flatten) →
        ∀ recipient, ((ingested others).rewardSums recipient).toOption =
          (database.rewardSums recipient).toOption) ∧
    ∀ url time,
      Query.rows database time { databaseUrl := url, entity := .rewardsSum } =
        (database.rewardSums none).map rows ∧
      ∀ (address : Address) (text : String) (environment : String → Option String),
        url.toList.head? ≠ some '-' → text.toList.map Char.toLower = address.text.toList →
          ∃ query result,
            CommandLine.parse
                ["select", "--db-url", url, "--entity", "rewards-sum", "--referral", text]
                environment = .ok (.select query) ∧
              query.rows database time = result.map rows ∧
              Answers (Rewards.of (logs.filter fun log => (log.topic 2).address = address))
                result := by
  intro database logs
  have hanswers := answers_ingested batches
  have hall : Answers (Rewards.of logs) (database.rewardSums none) := by
    simpa [Reward.goesTo] using hanswers none
  have hone (referral : String) : Answers ((Rewards.of logs).filter (·.referral = referral))
      (database.rewardSums (some referral)) := by
    simpa [Reward.goesTo] using hanswers (some referral)
  refine ⟨table_ingested batches, hall,
    fun referral => ⟨hone referral, fun hnone => ?_, fun sums hsums => ?_⟩,
    fun hsettled => ⟨fun log => hsettled.mem_rewards, fun others hsame recipient => ?_⟩,
    fun url time => ⟨Query.rows_rewardsSum database time url none, ?_⟩⟩
  · have hown := hone referral
    rw [hnone] at hown
    exact hown.eq_nil
  · rw [hsums] at hall
    exact hall.filter_referral (hone referral)
  · have hothers := answers_ingested others recipient
    rw [hsettled.rewards_eq hsame] at hothers
    exact hothers.toOption_eq (hanswers recipient)
  · intro address text environment hurl htext
    refine ⟨_, _, CommandLine.parse_selection hurl htext environment,
      Query.rows_rewardsSum database time url (some address), ?_⟩
    rw [← filter_checksum]
    exact hone address.checksum

end EventIndexer
