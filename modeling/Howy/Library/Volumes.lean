import Mathlib.Data.Option.Defs
import Mathlib.Logic.Function.Basic

/-! Entries under keys that a crash may undo as long as they are not synced. -/

namespace Howy.Library

variable {κ ν ν' : Type}

/-- The entries there are, and those of every earlier moment since the last sync. -/
structure Volume (κ ν : Type) where
  now : κ → Option ν
  past : List (κ → Option ν)

namespace Volume

def moments (v : Volume κ ν) : List (κ → Option ν) := v.now :: v.past

def change (f : (κ → Option ν) → κ → Option ν) (v : Volume κ ν) : Volume κ ν := ⟨f v.now, v.moments⟩

def sync (v : Volume κ ν) : Volume κ ν := ⟨v.now, []⟩

def modify [DecidableEq κ] (k : κ) (f : ν → ν) (v : Volume κ ν) : Volume κ ν :=
  { v with now := Function.update v.now k ((v.now k).map f) }

def Survives (keeps : ν → ν' → Prop) (v : Volume κ ν) (entries : κ → Option ν') : Prop :=
  ∀ k, ∃ m ∈ v.moments, Option.Rel keeps (m k) (entries k)

def Throughout (k l : κ) (K L : Option ν → Prop) (v : Volume κ ν) : Prop := ∀ m ∈ v.moments, K (m k) ∧ L (m l)

variable {k l : κ} {K L K' L' : Option ν → Prop} {v : Volume κ ν}

lemma Throughout.now (h : Throughout k l K L v) : K (v.now k) ∧ L (v.now l) := h _ List.mem_cons_self

lemma Throughout.weaken (h : Throughout k l K L v) (hK : ∀ x, K x → K' x) (hL : ∀ x, L x → L' x) :
    Throughout k l K' L' v := fun m hm => ⟨hK _ (h m hm).1, hL _ (h m hm).2⟩

lemma Throughout.change (h : Throughout k l K L v) {f : (κ → Option ν) → κ → Option ν} (hk : K (f v.now k))
    (hl : L (f v.now l)) : Throughout k l K L (v.change f) := List.forall_mem_cons.mpr ⟨⟨hk, hl⟩, h⟩

lemma throughout_sync (hk : K (v.now k)) (hl : L (v.now l)) : Throughout k l K L v.sync :=
  List.forall_mem_singleton.mpr ⟨hk, hl⟩

lemma Throughout.modify [DecidableEq κ] (h : Throughout k l K L v) {x : κ} (hk : k ≠ x) (hl : l ≠ x) (f : ν → ν) :
    Throughout k l K L (v.modify x f) := by
  refine List.forall_mem_cons.mpr ⟨?_, fun m hm => h m (List.mem_cons_of_mem _ hm)⟩
  simp only [Volume.modify, Function.update_of_ne hk, Function.update_of_ne hl]
  exact h.now

end Volume

end Howy.Library
