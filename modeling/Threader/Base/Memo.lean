import Mathlib.Data.List.AList

/-! Answers that are remembered under their questions, and are the same as without the memory. -/

universe u v

/-- The answers given so far, at most one for each question. -/
abbrev Memo (κ : Type u) (ν : Type v) := AList fun _ : κ => ν

namespace Memo

variable {κ : Type u} {ν : Type v} [DecidableEq κ] {answer : κ → ν}

/-- An answer is remembered unless its question has one already. -/
def remember (memo : Memo κ ν) (question : κ) (value : ν) : Memo κ ν :=
  if question ∈ memo then memo else memo.insert question value

/-- What is remembered is what would be answered. -/
def Sound (answer : κ → ν) (memo : Memo κ ν) : Prop :=
  ∀ question value, memo.lookup question = some value → value = answer question

/-- Nothing is remembered wrongly where nothing is remembered. -/
theorem sound_empty : Sound answer (∅ : Memo κ ν) := by
  intro question value found
  rw [AList.lookup_empty] at found
  cases found

/-- A right answer keeps a memory right. -/
theorem Sound.remember {memo : Memo κ ν} (sound : Sound answer memo) (question : κ) :
    Sound answer (memo.remember question (answer question)) := by
  -- A question that has an answer keeps it.
  unfold Memo.remember
  split
  · exact sound
  · intro other value found
    -- Only the new question has got another answer than before.
    by_cases same : other = question
    · subst same
      rw [AList.lookup_insert] at found
      exact (Option.some.inj found).symm
    · rw [AList.lookup_insert_ne same] at found
      exact sound other value found

/-- What a right memory answers, or else is answered anew, is the answer. -/
theorem Sound.getD_lookup {memo : Memo κ ν} (sound : Sound answer memo) (question : κ) :
    (memo.lookup question).getD (answer question) = answer question := by
  cases found : memo.lookup question with
  | none => rfl
  | some value => exact sound question value found

end Memo
