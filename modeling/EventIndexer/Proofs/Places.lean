import EventIndexer.Proofs.Readback
import EventIndexer.Proofs.Rows
import EventIndexer.Proofs.Source
import Mathlib.Data.List.Pairwise

/-! Where logs stand.  The text of a transaction's hash tells it from every other, so two logs of a
kind that stand at different places are stored in different rows. -/

namespace EventIndexer

theorem Word.text_injective {a b : Word} (h : a.text = b.text) : a = b := by
  have hread : some a = some b := by rw [← Word.parse?_text a, ← Word.parse?_text b, h]
  exact Option.some.inj hread

theorem Log.place_of_sameRow {a b : Log} {e f : Event} (ha : a.event? = some e)
    (hb : b.event? = some f) (h : e.sameRow f = true) :
    e.kind = f.kind ∧ a.transaction = b.transaction ∧ a.index = b.index := by
  obtain ⟨hkind, htransaction, hindex⟩ := Event.sameRow_iff.mp h
  obtain ⟨_, i, s, -, hi, hs, -, -, he⟩ := Log.position_eq_ok (Log.event?_eq_some ha).2.1
  obtain ⟨_, j, t, -, hj, ht, -, -, hf⟩ := Log.position_eq_ok (Log.event?_eq_some hb).2.1
  rw [he, hf] at htransaction hindex
  have htext : s = t := Word.text_injective htransaction
  have hnumber : i = j := Int.ofNat.inj hindex
  exact ⟨hkind, by rw [hs, ht, htext], by rw [hi, hj, hnumber]⟩

/-- Whether two logs that decode to events of one kind differ in the transaction or in the index. -/
def Log.Apart (a b : Log) : Prop :=
  ∀ e ∈ a.event?, ∀ f ∈ b.event?, e.kind = f.kind →
    ¬(a.transaction = b.transaction ∧ a.index = b.index)

instance : Std.Symm Log.Apart where
  symm _ _ h f hf e he hkind hplace := h e he f hf hkind.symm ⟨hplace.1.symm, hplace.2.symm⟩

namespace Chain

/-- Whether no two logs of one kind stand at one place. -/
def Separate (chain : Chain) : Prop := chain.Pairwise Log.Apart

variable {chain : Chain} {address : Address} {kinds : List Kind} {low high : Nat}

theorem separate_of_places
    (h : chain.Pairwise fun a b => ¬(a.transaction = b.transaction ∧ a.index = b.index)) :
    chain.Separate :=
  h.imp fun hplace _ _ _ _ _ => hplace

theorem Separate.eq_of_sameRow (h : chain.Separate) {a b : Log} (ha : a ∈ chain) (hb : b ∈ chain)
    {e f : Event} (he : a.event? = some e) (hf : b.event? = some f) (hrow : e.sameRow f = true) :
    e = f := by
  obtain ⟨hkind, hplace⟩ := Log.place_of_sameRow he hf hrow
  by_cases hsame : a = b
  · subst hsame
    rw [he] at hf
    exact Option.some.inj hf
  · exact absurd hplace (List.Pairwise.forall h ha hb hsame e he f hf hkind)

theorem Separate.nodup_due (h : chain.Separate) : (chain.due address kinds low high).Nodup := by
  rw [due_eq, List.Nodup, List.pairwise_filterMap]
  refine (h.filter _).imp fun hab e he f hf hsame => ?_
  subst hsame
  have hplace := Log.place_of_sameRow he hf (Event.sameRow_refl e)
  exact hab e he e hf hplace.1 hplace.2

end Chain

end EventIndexer
