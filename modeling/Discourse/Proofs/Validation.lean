import Discourse.Inference.Reading

/-!
# Readings without problems

What is read from values that hold just what is wanted.

* `readList_map`: a list of written things.
* `readNatFrom_integer`: a natural number.
* `readPremises_texts`: distinct sentences are read as premises without a loss.
-/

namespace Discourse

/-! ## Parts -/

section Parts

variable {α : Type} {read : Json → Reading α}

@[simp] theorem Reading.under_ok (part : String) (a : α) :
    (Reading.under part (.ok a) : Reading α) = .ok a := rfl

theorem readItems_map {write : α → Json} {as : List α} (h : ∀ a ∈ as, read (write a) = .ok a)
    (index : Nat) : readItems read index (as.map write) = as.map .ok := by
  induction as generalizing index with
  | nil => rfl
  | cons a as ih =>
    obtain ⟨ha, has⟩ := List.forall_mem_cons.mp h
    rw [List.map_cons, readItems, ha, ih has, List.map_cons, Reading.under_ok]

theorem all_readItems_map {write : α → Json} {as : List α}
    (h : ∀ a ∈ as, read (write a) = .ok a) :
    Reading.all (readItems read 0 (as.map write)) = .ok as := by
  have hall := Reading.all_map_ok (fun a : α => a) as
  rw [List.map_id'] at hall
  rw [readItems_map h]
  exact hall

/-- A list of things of which each is read back is read back. -/
theorem readList_map {write : α → Json} {as : List α} (h : ∀ a ∈ as, read (write a) = .ok a) :
    readList read (.list (as.map write)) = .ok as :=
  all_readItems_map h

end Parts

/-! ## Values without parts -/

/-- A natural number is read back. -/
theorem readNatFrom_integer (n : Nat) : readNatFrom 0 (.integer n) = .ok n := by
  have hn : ¬ ((n : Int) < 0) := by omega
  simp [readNatFrom, readInteger, hn]

/-! ## Premises -/

namespace Json

/-- Texts are told apart as they are. -/
theorem equals_text (medium : Medium) (s t : Text) :
    equals medium (text s) (text t) = (s == t) := by
  simp [equals, isNaN, same]

/-- Different texts are all kept. -/
theorem distinct_map_text (medium : Medium) {ts : List Text} (h : ts.Nodup) :
    distinct medium (ts.map text) = ts.map text := by
  induction ts with
  | nil => rfl
  | cons t ts ih =>
    obtain ⟨ht, hts⟩ := List.nodup_cons.mp h
    have hkept :
        (ts.map text).filter (fun v => equals medium v (text t) = false) = ts.map text := by
      rw [List.filter_eq_self]
      intro v hv
      obtain ⟨s, hs, rfl⟩ := List.mem_map.mp hv
      have hne : s ≠ t := by
        rintro rfl
        exact ht hs
      simpa [equals_text] using hne
    rw [distinct, List.map_cons, List.eraseDupsBy_cons, hkept]
    exact congrArg (text t :: ·) (ih hts)

end Json

/-- Sentences of which none is repeated are read as premises just as they are. -/
theorem readPremises_texts (medium : Medium) {ts : List Sentence} (h : ts.Nodup) :
    readPremises medium (.list (ts.map .text)) = .ok ts := by
  rw [readPremises, Json.members?]
  simp only [Json.distinct_map_text medium h]
  exact all_readItems_map fun _ _ => rfl

end Discourse
