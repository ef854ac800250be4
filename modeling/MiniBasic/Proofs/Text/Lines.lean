import MiniBasic.Text.Lines

/-!
# Cutting a text into lines

What the lines of a text are, by what stands in front: a line feed, a carriage return, anything
else, or a whole line with its end (`exists_linesWith_append`).

A statement about a text can be shown line by line (`induction_on_lines`): for a line that does not
end, and for a line with its end in front of a text for which it holds.
-/

namespace MiniBasic.Text

section

variable {α : Type} [DecidableEq α] {feed ret a : α} {rest line : List α}

theorem linesWith_feed : linesWith feed ret (feed :: rest) = [] :: linesWith feed ret rest :=
  if_pos rfl

theorem linesWith_ret (noFeed : ret ≠ feed) (ends : rest.head? = some feed) :
    linesWith feed ret (ret :: rest) = linesWith feed ret rest := by
  rw [linesWith, if_neg noFeed, if_pos ⟨rfl, ends⟩]

/-- What ends no line is the first of its line. -/
theorem linesWith_cons (noFeed : a ≠ feed) (noEnd : ¬ (a = ret ∧ rest.head? = some feed)) :
    linesWith feed ret (a :: rest) = consLine a (linesWith feed ret rest) := by
  rw [linesWith, if_neg noFeed, if_neg noEnd]

theorem linesWith_append (noControl : ∀ a ∈ line, a ≠ feed ∧ a ≠ ret) (rest : List α) :
    linesWith feed ret (line ++ rest) = line.foldr consLine (linesWith feed ret rest) := by
  induction line with
  | nil => rfl
  | cons a line ih =>
    obtain ⟨⟨noFeed, noRet⟩, others⟩ := List.forall_mem_cons.mp noControl
    rw [List.cons_append, linesWith_cons noFeed fun ends => noRet ends.1, ih others]
    rfl

/-- A line that does not end is a line as it stands. -/
theorem linesWith_of_feed_notMem (some_text : line ≠ []) (noFeed : feed ∉ line) :
    linesWith feed ret line = [line] := by
  induction line with
  | nil => exact absurd rfl some_text
  | cons a rest ih =>
    obtain ⟨noFeed, others⟩ := not_or.mp (mt List.mem_cons.mpr noFeed)
    have noEnd : ¬ (a = ret ∧ rest.head? = some feed) :=
      fun ends => others (List.mem_of_mem_head? ends.2)
    rw [linesWith_cons (Ne.symm noFeed) noEnd]
    cases rest with
    | nil => rfl
    | cons b rest =>
      rw [ih (List.cons_ne_nil b rest) others]
      rfl

/-- A line is a part of its text. -/
theorem subset_of_mem_linesWith {text : List α} (isLine : line ∈ linesWith feed ret text) :
    line ⊆ text := by
  induction text generalizing line with
  | nil => cases isLine
  | cons a rest ih =>
    rw [linesWith] at isLine
    split at isLine
    next =>
      rcases List.mem_cons.mp isLine with rfl | isLine
      · exact List.nil_subset _
      · exact List.subset_cons_of_subset a (ih isLine)
    next =>
      split at isLine
      next => exact List.subset_cons_of_subset a (ih isLine)
      next =>
        cases found : linesWith feed ret rest with
        | nil =>
          rw [found, consLine, List.mem_singleton] at isLine
          rw [isLine]
          exact List.cons_subset_cons a (List.nil_subset _)
        | cons first others =>
          rw [found, consLine, List.mem_cons] at isLine
          rcases isLine with rfl | isLine
          · exact List.cons_subset_cons a (ih (found ▸ List.mem_cons_self))
          · exact List.subset_cons_of_subset a (ih (found ▸ List.mem_cons_of_mem first isLine))

/-- A line with its end is one line, without the carriage return that belongs to that end. -/
theorem exists_linesWith_append (noRet : ret ≠ feed) (noFeed : feed ∉ line) (rest : List α) :
    ∃ first, linesWith feed ret (line ++ feed :: rest) = first :: linesWith feed ret rest ∧
      (line = first ∨ line = first ++ [ret]) := by
  induction line with
  | nil => exact ⟨[], linesWith_feed, Or.inl rfl⟩
  | cons a line ih =>
    obtain ⟨isNoFeed, others⟩ := not_or.mp (mt List.mem_cons.mpr noFeed)
    by_cases ends : a = ret ∧ (line ++ feed :: rest).head? = some feed
    · obtain ⟨rfl, isNext⟩ := ends
      cases line with
      | nil => exact ⟨[], (linesWith_ret noRet isNext).trans linesWith_feed, Or.inr rfl⟩
      | cons b line =>
        cases isNext
        exact absurd (List.mem_cons_self ..) others
    · obtain ⟨first, isLines, isLine⟩ := ih others
      refine ⟨a :: first, ?_, isLine.imp (congrArg (a :: ·)) (congrArg (a :: ·))⟩
      rw [List.cons_append, linesWith_cons (Ne.symm isNoFeed) ends, isLines]
      rfl

omit [DecidableEq α] in
theorem foldr_consLine_cons (front line : List α) (lines : List (List α)) :
    front.foldr consLine (line :: lines) = (front ++ line) :: lines := by
  induction front with
  | nil => rfl
  | cons a front ih =>
    rw [List.foldr_cons, ih]
    rfl

omit [DecidableEq α] in
theorem foldr_consLine_nil (some_text : line ≠ []) : line.foldr consLine [] = [line] := by
  rw [← List.dropLast_concat_getLast some_text, List.foldr_append]
  exact foldr_consLine_cons _ [line.getLast some_text] []

end

/-- A text is a line that does not end, or a line with its end and a text. -/
theorem induction_on_lines {holds : List Char → Prop} (last : ∀ line, '\n' ∉ line → holds line)
    (more : ∀ line rest, '\n' ∉ line → holds rest → holds (line ++ '\n' :: rest))
    (text : List Char) : holds text := by
  -- what is already read of a line stands in front
  suffices whole : ∀ line, '\n' ∉ line → holds (line ++ text) from whole [] List.not_mem_nil
  induction text with
  | nil =>
    intro line noFeed
    rw [List.append_nil]
    exact last line noFeed
  | cons c rest ih =>
    intro line noFeed
    by_cases isFeed : c = '\n'
    · rw [isFeed]
      exact more line rest noFeed (ih [] List.not_mem_nil)
    · rw [List.append_cons]
      refine ih (line ++ [c]) ?_
      simp [noFeed, Ne.symm isFeed]

end MiniBasic.Text
