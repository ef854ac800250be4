/-!
# The lines of a text

A line ends at a line feed, and one carriage return just before that line feed belongs to the
ending too.  A last line without a line feed is a line as it stands, its carriage returns
included; nothing after the last line feed is no line.  The rule is the same for characters and
for bytes, so the two controls are arguments.
-/

namespace MiniBasic.Text

section

variable {α : Type} [DecidableEq α]

/-- An element put at the front of the first line. -/
def consLine (a : α) : List (List α) → List (List α)
  | [] => [[a]]
  | line :: lines => (a :: line) :: lines

/-- The lines of a sequence, for given line feed and carriage return. -/
def linesWith (feed ret : α) : List α → List (List α)
  | [] => []
  | a :: rest =>
    if a = feed then [] :: linesWith feed ret rest
    else if a = ret ∧ rest.head? = some feed then linesWith feed ret rest
    else consLine a (linesWith feed ret rest)

end

/-- The lines of a text. -/
def lines (text : List Char) : List (List Char) := linesWith '\n' '\r' text

/-- The lines of a sequence of bytes. -/
def byteLines (bytes : List UInt8) : List (List UInt8) := linesWith 10 13 bytes

example : lines [] = [] := by decide
example : lines ['a', '\r', '\r', '\n', '\n', 'b', '\r'] = [['a', '\r'], [], ['b', '\r']] := by
  decide

/-- No line holds a line feed. -/
theorem feed_notMem_of_mem_linesWith {α : Type} [DecidableEq α] {feed ret : α} {text line : List α}
    (h : line ∈ linesWith feed ret text) : feed ∉ line := by
  induction text generalizing line with
  | nil => simp [linesWith] at h
  | cons a rest ih =>
    simp only [linesWith] at h
    split at h
    · rcases List.mem_cons.1 h with rfl | h
      · simp
      · exact ih h
    · split at h
      · exact ih h
      · rename_i other _
        cases found : linesWith feed ret rest with
        | nil =>
          simp only [found, consLine, List.mem_singleton] at h
          subst h
          simpa using fun same => other same.symm
        | cons first others =>
          simp only [found, consLine, List.mem_cons] at h
          rcases h with rfl | h
          · have clean : feed ∉ first := ih (by simp [found])
            simpa [clean] using fun same => other same.symm
          · exact ih (by simp [found, h])

end MiniBasic.Text
