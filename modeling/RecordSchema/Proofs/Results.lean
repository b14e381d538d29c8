import Mathlib.Data.List.Forall2

/-!
# Results that may be errors

What it takes for steps in `Except` to succeed, and for which error they fail.  A list of steps
fails with the error of the first step that does.
-/

namespace RecordSchema.Result

variable {ε ε' α β : Type} {result : Except ε α} {next : α → Except ε β}

theorem map_eq_ok_iff {f : α → β} {b : β} :
    result.map f = .ok b ↔ ∃ a, result = .ok a ∧ f a = b := by
  cases result with
  | error error =>
    constructor
    · rintro ⟨⟩
    · rintro ⟨_, ⟨⟩, _⟩
  | ok a =>
    constructor
    · rintro ⟨⟩
      exact ⟨a, rfl, rfl⟩
    · rintro ⟨_, ⟨⟩, rfl⟩
      rfl

theorem map_eq_error_iff {f : α → β} {error : ε} :
    result.map f = .error error ↔ result = .error error := by
  cases result <;> simp [Except.map]

theorem mapError_eq_ok_iff {f : ε → ε'} {a : α} : result.mapError f = .ok a ↔ result = .ok a := by
  cases result <;> simp [Except.mapError]

theorem mapError_eq_error_iff {f : ε → ε'} {error : ε'} :
    result.mapError f = .error error ↔ ∃ cause, result = .error cause ∧ error = f cause := by
  cases result <;> simp [Except.mapError, eq_comm]

theorem bind_eq_ok_iff {b : β} :
    result >>= next = .ok b ↔ ∃ a, result = .ok a ∧ next a = .ok b := by
  cases result with
  | error error =>
    constructor
    · rintro ⟨⟩
    · rintro ⟨_, ⟨⟩, _⟩
  | ok a =>
    constructor
    · exact fun last => ⟨a, rfl, last⟩
    · rintro ⟨_, ⟨⟩, last⟩
      exact last

theorem bind_eq_error_iff {error : ε} :
    result >>= next = .error error ↔
      result = .error error ∨ ∃ a, result = .ok a ∧ next a = .error error := by
  cases result with
  | error other =>
    constructor
    · rintro ⟨⟩
      exact .inl rfl
    · rintro (⟨⟨⟩⟩ | ⟨_, ⟨⟩, _⟩)
      rfl
  | ok a =>
    constructor
    · exact fun last => .inr ⟨a, rfl, last⟩
    · rintro (⟨⟨⟩⟩ | ⟨_, ⟨⟩, last⟩)
      exact last

/-- A result is a success or an error. -/
theorem ok_or_error (result : Except ε α) :
    (∃ a, result = .ok a) ∨ ∃ error, result = .error error := by
  cases result with
  | error error => exact .inr ⟨error, rfl⟩
  | ok a => exact .inl ⟨a, rfl⟩

/-! ## Lists of steps -/

section Lists

variable {step : α → Except ε β} {check : α → Except ε Unit} {items : List α} {error : ε}

theorem mapM_eq_ok_iff {found : List β} :
    items.mapM step = .ok found ↔ List.Forall₂ (fun a b => step a = .ok b) items found := by
  induction items generalizing found with
  | nil =>
    rw [List.mapM_nil, List.forall₂_nil_left_iff]
    constructor
    · rintro ⟨⟩
      rfl
    · rintro rfl
      rfl
  | cons a rest ih =>
    rw [List.mapM_cons, bind_eq_ok_iff, List.forall₂_cons_left_iff]
    constructor
    · rintro ⟨b, first, others⟩
      obtain ⟨later, listed, same⟩ := bind_eq_ok_iff.1 others
      cases same
      exact ⟨b, later, first, ih.1 listed, rfl⟩
    · rintro ⟨b, later, first, listed, rfl⟩
      exact ⟨b, first, bind_eq_ok_iff.2 ⟨later, ih.2 listed, rfl⟩⟩

/-- The first bad item of a list that begins with `a`: it is `a`, or `a` is good and the first bad
one comes later. -/
theorem exists_first_cons_iff {good bad : α → Prop} {a : α} {rest : List α} :
    (∃ earlier b later, a :: rest = earlier ++ b :: later ∧ (∀ c ∈ earlier, good c) ∧ bad b) ↔
      bad a ∨ good a ∧ ∃ earlier b later, rest = earlier ++ b :: later ∧
        (∀ c ∈ earlier, good c) ∧ bad b := by
  constructor
  · rintro ⟨earlier, b, later, split, fine, failed⟩
    cases earlier with
    | nil =>
      cases split
      exact .inl failed
    | cons c earlier =>
      cases split
      obtain ⟨first, fine⟩ := List.forall_mem_cons.1 fine
      exact .inr ⟨first, earlier, b, later, rfl, fine, failed⟩
  · rintro (failed | ⟨first, earlier, b, later, rfl, fine, failed⟩)
    · exact ⟨[], a, rest, rfl, nofun, failed⟩
    · exact ⟨a :: earlier, b, later, rfl, List.forall_mem_cons.2 ⟨first, fine⟩, failed⟩

theorem not_exists_first_nil {good bad : α → Prop} :
    ¬ ∃ earlier b later, ([] : List α) = earlier ++ b :: later ∧ (∀ c ∈ earlier, good c) ∧
      bad b := by
  rintro ⟨earlier, b, later, split, -⟩
  cases earlier <;> cases split

theorem mapM_eq_error_iff :
    items.mapM step = .error error ↔
      ∃ earlier a later, items = earlier ++ a :: later ∧ (∀ b ∈ earlier, ∃ c, step b = .ok c) ∧
        step a = .error error := by
  induction items with
  | nil => exact iff_of_false nofun not_exists_first_nil
  | cons a rest ih =>
    rw [List.mapM_cons, bind_eq_error_iff, exists_first_cons_iff, ← ih]
    refine or_congr_right ⟨?_, ?_⟩
    · rintro ⟨b, first, others⟩
      rcases bind_eq_error_iff.1 others with failed | ⟨_, _, ⟨⟩⟩
      exact ⟨⟨b, first⟩, failed⟩
    · rintro ⟨⟨b, first⟩, failed⟩
      exact ⟨b, first, bind_eq_error_iff.2 (.inl failed)⟩

/-- Steps succeed one after the other just if each does. -/
theorem mapM_isOk_iff :
    (∃ found, items.mapM step = .ok found) ↔ ∀ a ∈ items, ∃ b, step a = .ok b := by
  constructor
  · rintro ⟨found, all⟩ a listed
    have related := mapM_eq_ok_iff.1 all
    clear all
    induction related with
    | nil => cases listed
    | cons succeeds _ ih =>
      rcases List.mem_cons.1 listed with rfl | later
      · exact ⟨_, succeeds⟩
      · exact ih later
  · intro each
    obtain ok | ⟨error, failed⟩ := ok_or_error (items.mapM step)
    · exact ok
    · obtain ⟨earlier, a, later, rfl, -, failed⟩ := mapM_eq_error_iff.1 failed
      obtain ⟨b, succeeds⟩ := each a (by simp)
      cases succeeds.symm.trans failed

theorem forM_cons (check : α → Except ε Unit) (a : α) (rest : List α) :
    (a :: rest).forM check = check a >>= fun _ => rest.forM check := rfl

theorem forM_eq_ok_iff : items.forM check = .ok () ↔ ∀ a ∈ items, check a = .ok () := by
  induction items with
  | nil => exact iff_of_true rfl nofun
  | cons a rest ih =>
    rw [forM_cons, bind_eq_ok_iff, List.forall_mem_cons, ← ih]
    constructor
    · rintro ⟨_, first, others⟩
      exact ⟨first, others⟩
    · rintro ⟨first, others⟩
      exact ⟨⟨⟩, first, others⟩

theorem forM_eq_error_iff :
    items.forM check = .error error ↔
      ∃ earlier a later, items = earlier ++ a :: later ∧ (∀ b ∈ earlier, check b = .ok ()) ∧
        check a = .error error := by
  induction items with
  | nil => exact iff_of_false nofun not_exists_first_nil
  | cons a rest ih =>
    rw [forM_cons, bind_eq_error_iff, exists_first_cons_iff, ← ih]
    refine or_congr_right ⟨?_, ?_⟩
    · rintro ⟨_, first, failed⟩
      exact ⟨first, failed⟩
    · rintro ⟨first, failed⟩
      exact ⟨⟨⟩, first, failed⟩

theorem foldlM_eq_error_iff {state : β} {step : β → α → Except ε β} :
    items.foldlM step state = .error error ↔
      ∃ earlier a later before, items = earlier ++ a :: later ∧
        earlier.foldlM step state = .ok before ∧ step before a = .error error := by
  induction items generalizing state with
  | nil =>
    constructor
    · rintro ⟨⟩
    · rintro ⟨earlier, a, later, _, split, -⟩
      cases earlier <;> cases split
  | cons a rest ih =>
    rw [List.foldlM_cons, bind_eq_error_iff]
    constructor
    · rintro (failed | ⟨next, first, others⟩)
      · exact ⟨[], a, rest, state, rfl, rfl, failed⟩
      · obtain ⟨earlier, c, later, before, rfl, fine, failed⟩ := ih.1 others
        refine ⟨a :: earlier, c, later, before, rfl, ?_, failed⟩
        rw [List.foldlM_cons, first]
        exact fine
    · rintro ⟨earlier, c, later, before, split, fine, failed⟩
      cases earlier with
      | nil =>
        cases split
        cases fine
        exact .inl failed
      | cons d earlier =>
        cases split
        rw [List.foldlM_cons] at fine
        obtain ⟨next, first, others⟩ := bind_eq_ok_iff.1 fine
        exact .inr ⟨next, first, ih.2 ⟨earlier, c, later, before, rfl, others, failed⟩⟩

end Lists

end RecordSchema.Result
