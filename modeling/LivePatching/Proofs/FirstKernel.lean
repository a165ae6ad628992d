import LivePatching.Selection.Invariant

/-!
# The kernel that is chosen first

The form is given a kernel as soon as a list of kernels is there.

* `firstKernel`: the rule, apart from the way the choice is made.
* `firstKernel_eq_some_iff`: what the rule says of a list cut in two at the kernel.
* `defaultKernel_eq`: **the choice follows the rule.**
-/

namespace LivePatching

/-- The kernel of a list that is chosen first: the first one marked as default, without one the
first of all, and none if there are no kernels. -/
def firstKernel (kernels : List Kernel) : Option Kernel :=
  match kernels.filter (·.default), kernels with
  | k :: _, _ => some k
  | [], k :: _ => some k
  | [], [] => none

variable {kernels : List Kernel} {k : Kernel}

/-- The first flagged kernel, or else the first. -/
theorem firstKernel_eq_or (kernels : List Kernel) :
    firstKernel kernels = (kernels.filter (·.default)).head?.or kernels.head? := by
  unfold firstKernel
  cases kernels.filter (·.default) with
  | cons k rest => rfl
  | nil => cases kernels <;> rfl

/-- The kernel is marked and none before it is, or it stands first and none is marked. -/
theorem firstKernel_eq_some_iff : firstKernel kernels = some k ↔
    (∃ before after, kernels = before ++ k :: after ∧ k.default = true ∧
        ∀ j ∈ before, j.default = false) ∨
      ∃ rest, kernels = k :: rest ∧ ∀ j ∈ kernels, j.default = false := by
  have hmarked : (kernels.filter (·.default)).head? = some k ↔
      ∃ before after, kernels = before ++ k :: after ∧ k.default = true ∧
        ∀ j ∈ before, j.default = false := by
    rw [List.head?_filter, List.find?_eq_some_iff_append]
    simp only [Bool.not_eq_true', ← exists_and_left]
    exact ⟨fun ⟨before, after, hk, h, hb⟩ => ⟨before, after, h, hk, hb⟩,
      fun ⟨before, after, h, hk, hb⟩ => ⟨before, after, hk, h, hb⟩⟩
  rw [firstKernel_eq_or, Option.or_eq_some_iff, hmarked, List.head?_eq_none_iff,
    List.filter_eq_nil_iff, List.head?_eq_some_iff]
  simp only [Bool.not_eq_true, exists_and_right, and_comm]

/-- The kernel chosen is one of the list. -/
theorem firstKernel_mem (h : firstKernel kernels = some k) : k ∈ kernels := by
  rcases firstKernel_eq_some_iff.mp h with ⟨before, after, rfl, -⟩ | ⟨rest, rfl, -⟩ <;> simp

/-- Where there are kernels, one is chosen. -/
theorem exists_firstKernel (h : kernels ≠ []) : ∃ k, firstKernel kernels = some k := by
  rw [firstKernel_eq_or]
  cases kernels with
  | nil => exact absurd rfl h
  | cons k rest =>
    cases ((k :: rest).filter (·.default)).head? with
    | none => exact ⟨k, rfl⟩
    | some j => exact ⟨j, rfl⟩

/-- **The choice follows the rule.** -/
theorem defaultKernel_eq (kernels : List Kernel) :
    defaultKernel kernels = (firstKernel kernels).map (·.id) := by
  rw [firstKernel_eq_or, List.head?_filter, defaultKernel]

end LivePatching
