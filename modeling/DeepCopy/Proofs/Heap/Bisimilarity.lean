import DeepCopy.Proofs.Heap.Reach
import Mathlib.Data.List.Forall2

/-!
# Bisimilar values

Two values, each in a heap of its own, are bisimilar when nobody who looks at scalars, types, names
and the order of things, and who follows references, can tell them apart: they look alike, and so
does whatever is found at corresponding places in them. References may come back to where they
started, so this is no recursion over values but the existence of a relation that every step keeps.

## Main definitions

* `Content.Alike R c d`: contents of one kind, with the same names and lengths, and with values at
  corresponding places that `R` relates
* `Heap.IsBisimulation h g R`: values that `R` relates look alike up to `R`
* `Heap.Bisimilar h v g w`: some such relation relates `v` in `h` and `w` in `g`

## Main results

* `Bisimilar.alike`: bisimilar values look alike up to bisimilarity
* `Bisimilar.of_step`: a relation that every step keeps holds of bisimilar values only
* `bisimilar_self`: a value is bisimilar to itself in every heap grown from its own
-/

namespace DeepCopy

/-- Contents look alike when they have one kind, the same type name, the same field names, the same
length and order, the same scalar, and related values at corresponding places. -/
inductive Content.Alike (R : Value → Value → Prop) : Content → Content → Prop
  | scalar (v : Value) : Alike R (.scalar v) (.scalar v)
  | object {typeName : String} {f g : Fields}
      (hfg : List.Forall₂ (fun a b => a.1 = b.1 ∧ R a.2 b.2) f.entries g.entries) :
      Alike R (.cell (.object typeName f)) (.cell (.object typeName g))
  | array {vs ws : List Value} (hvw : List.Forall₂ R vs ws) :
      Alike R (.cell (.array vs)) (.cell (.array ws))
  | sequence {typeName : String} {vs ws : List Value} (hvw : List.Forall₂ R vs ws) :
      Alike R (.cell (.sequence typeName vs)) (.cell (.sequence typeName ws))
  | mapping {typeName : String} {es fs : List (Value × Value)}
      (hef : List.Forall₂ (fun a b => R a.1 b.1 ∧ R a.2 b.2) es fs) :
      Alike R (.cell (.mapping typeName es)) (.cell (.mapping typeName fs))

namespace Content

variable {R S : Value → Value → Prop} {c d : Content}

theorem Alike.mono (hRS : ∀ v w, R v w → S v w) (hc : c.Alike R d) : c.Alike S d := by
  cases hc with
  | scalar v => exact .scalar v
  | object hfg => exact .object (hfg.imp fun _ _ hab => hab.imp_right (hRS _ _))
  | array hvw => exact .array (hvw.imp hRS)
  | sequence hvw => exact .sequence (hvw.imp hRS)
  | mapping hef => exact .mapping (hef.imp fun _ _ hab => hab.imp (hRS _ _) (hRS _ _))

/-- A scalar looks like itself, and a cell does if each of its values is related to itself. -/
theorem Alike.of_refl (hc : ∀ cell, c = .cell cell → ∀ v ∈ cell.values, R v v) : c.Alike R c := by
  rcases c with x | ⟨n, f⟩ | vs | ⟨n, vs⟩ | ⟨n, es⟩
  · exact .scalar x
  · refine .object (List.forall₂_same.mpr fun e he => ⟨rfl, hc _ rfl _ ?_⟩)
    exact List.mem_map.mpr ⟨e, he, rfl⟩
  · exact .array (List.forall₂_same.mpr fun v hv => hc _ rfl v hv)
  · exact .sequence (List.forall₂_same.mpr fun v hv => hc _ rfl v hv)
  · refine .mapping (List.forall₂_same.mpr fun e he => ⟨hc _ rfl _ ?_, hc _ rfl _ ?_⟩)
    · exact Cell.mem_values_mapping.mpr ⟨e, he, .inl rfl⟩
    · exact Cell.mem_values_mapping.mpr ⟨e, he, .inr rfl⟩

end Content

namespace Heap

/-- Values that are related look alike, and the values at corresponding places in them are related
again. -/
def IsBisimulation (h g : Heap) (R : Value → Value → Prop) : Prop :=
  ∀ v w, R v w → (h.content v).Alike R (g.content w)

/-- A value in one heap and a value in another cannot be told apart by following references. -/
def Bisimilar (h : Heap) (v : Value) (g : Heap) (w : Value) : Prop :=
  ∃ R, IsBisimulation h g R ∧ R v w

variable {h g : Heap} {v w : Value}

/-- **Bisimilar values look alike**, up to bisimilarity of what is found in them. -/
theorem Bisimilar.alike (hvw : h.Bisimilar v g w) :
    (h.content v).Alike (fun a b => h.Bisimilar a g b) (g.content w) := by
  obtain ⟨R, hR, hr⟩ := hvw
  exact (hR v w hr).mono fun a b hab => ⟨R, hR, hab⟩

/-- **Values are bisimilar** if a relation holds of them that every step keeps or ends in values
known to be bisimilar. -/
theorem Bisimilar.of_step {R : Value → Value → Prop}
    (hR : ∀ a b, R a b →
      (h.content a).Alike (fun x y => R x y ∨ h.Bisimilar x g y) (g.content b))
    (hvw : R v w) : h.Bisimilar v g w := by
  refine ⟨fun x y => R x y ∨ h.Bisimilar x g y, ?_, .inl hvw⟩
  rintro a b (hab | hab)
  · exact hR a b hab
  · exact hab.alike.mono fun x y hxy => .inr hxy

/-- A value is bisimilar to itself in every heap grown from its own. -/
theorem bisimilar_self (hh : h.Closed) (hg : h ≤ g) (hv : h.Holds v) : h.Bisimilar v g v := by
  refine ⟨fun a b => a = b ∧ h.Holds a, ?_, rfl, hv⟩
  rintro a b ⟨rfl, ha⟩
  rw [content_of_le hg ha]
  exact .of_refl fun c hc b hb => ⟨rfl, hh.holds hc hb⟩

end Heap

end DeepCopy
