import MiniBasic.CommandLine.Run
import MiniBasic.Proofs.Lexical.Blanking
import MiniBasic.Proofs.Text.Lines

/-!
# Lines as they come in

The standard input is cut into lines before it is decoded, a file after it.  For a text in UTF-8
that makes no difference: whether it comes in or is in a file, a command that goes line by line
does the same (`onInput_text`).  A line that comes in alone is answered as among other lines
(`onLines_line`), or passed over if it is blank (`onLines_blank`).

*Bytes.*  The codes of the two controls that end a line are bytes of these controls and of no other
character (`eq_of_mem_utf8EncodeChar`).  So the lines of the bytes are the bytes of the lines
(`byteLines_utf8`), and each of them can be decoded.
-/

namespace MiniBasic

open Lexical (utf8 utf8_append toList_toUTF8)

namespace Text

/-! ## Bytes -/

/-- A byte below 128 stands for the character with this code and for no other. -/
theorem toNat_of_mem_utf8EncodeChar {c : Char} {byte : UInt8}
    (isIn : byte ∈ String.utf8EncodeChar c) (ascii : byte.toNat < 128) :
    c.toNat = byte.toNat := by
  have isCode : c.toNat = c.val.toNat := rfl
  simp only [String.utf8EncodeChar] at isIn
  split at isIn
  next small =>
    rw [List.mem_singleton.mp isIn, UInt8.toNat_ofNat']
    omega
  next =>
    have large : 128 ≤ byte.toNat := by
      split at isIn
      next =>
        simp only [List.mem_cons, List.not_mem_nil, or_false] at isIn
        rcases isIn with rfl | rfl <;> rw [UInt8.toNat_ofNat'] <;> omega
      next =>
        split at isIn <;> simp only [List.mem_cons, List.not_mem_nil, or_false] at isIn
        · rcases isIn with rfl | rfl | rfl <;> rw [UInt8.toNat_ofNat'] <;> omega
        · rcases isIn with rfl | rfl | rfl | rfl <;> rw [UInt8.toNat_ofNat'] <;> omega
    omega

/-- The code of a control is a byte of this control only. -/
theorem eq_of_mem_utf8EncodeChar {c : Char} (control : Char) (ascii : control.toNat < 128)
    (isIn : UInt8.ofNat control.toNat ∈ String.utf8EncodeChar c) : c = control := by
  have isByte : (UInt8.ofNat control.toNat).toNat = control.toNat := by
    rw [UInt8.toNat_ofNat']
    omega
  rw [← Char.toNat_inj, toNat_of_mem_utf8EncodeChar isIn (by omega), isByte]

theorem utf8_cons (c : Char) (text : List Char) :
    utf8 (c :: text) = String.utf8EncodeChar c ++ utf8 text :=
  List.flatMap_cons

theorem head?_utf8_eq_feed_iff {text : List Char} :
    (utf8 text).head? = some 10 ↔ text.head? = some '\n' := by
  cases text with
  | nil => simp [utf8]
  | cons c rest =>
    obtain ⟨byte, more, isCode⟩ := List.exists_cons_of_ne_nil (@String.utf8EncodeChar_ne_nil c)
    rw [utf8_cons, isCode, List.cons_append, List.head?_cons, List.head?_cons, Option.some.injEq,
      Option.some.injEq]
    constructor
    · rintro rfl
      exact eq_of_mem_utf8EncodeChar '\n' (by decide) (isCode ▸ List.mem_cons_self)
    · rintro rfl
      exact (List.cons.inj isCode).1.symm

/-- The bytes of lines, of which the first got a character in front. -/
theorem map_utf8_consLine (c : Char) (lines : List (List Char)) :
    (consLine c lines).map utf8 = (String.utf8EncodeChar c).foldr consLine (lines.map utf8) := by
  cases lines with
  | nil =>
    rw [List.map_nil, foldr_consLine_nil String.utf8EncodeChar_ne_nil, consLine, List.map_singleton,
      utf8_cons]
    exact congrArg (fun bytes => [bytes]) (List.append_nil _)
  | cons line lines =>
    rw [List.map_cons, foldr_consLine_cons, consLine, List.map_cons, utf8_cons]

/-- The lines of the bytes are the bytes of the lines. -/
theorem byteLines_utf8 (text : List Char) : byteLines (utf8 text) = (lines text).map utf8 := by
  unfold byteLines lines
  induction text with
  | nil => rfl
  | cons c rest ih =>
    by_cases isFeed : c = '\n'
    · subst isFeed
      rw [linesWith_feed, List.map_cons, ← ih]
      exact linesWith_feed
    by_cases ends : c = '\r' ∧ rest.head? = some '\n'
    · obtain ⟨rfl, ends⟩ := ends
      rw [linesWith_ret (by decide) ends, ← ih]
      exact linesWith_ret (by decide) (head?_utf8_eq_feed_iff.mpr ends)
    rw [linesWith_cons isFeed ends, map_utf8_consLine, ← ih, utf8_cons]
    by_cases isRet : c = '\r'
    · -- a carriage return that stands alone is a byte of the line
      subst isRet
      refine linesWith_cons (by decide) fun ends' => ends ⟨rfl, ?_⟩
      exact head?_utf8_eq_feed_iff.mp ends'.2
    · refine linesWith_append (fun byte isIn => ⟨?_, ?_⟩) _
      · rintro rfl
        exact isFeed (eq_of_mem_utf8EncodeChar '\n' (by decide) isIn)
      · rintro rfl
        exact isRet (eq_of_mem_utf8EncodeChar '\r' (by decide) isIn)

end Text

namespace CommandLine

/-! ## Decoding -/

variable {bytes : ByteArray} {text path : String} {handle : String → Output}

theorem fromUTF8?_toUTF8 (text : String) : String.fromUTF8? text.toUTF8 = some text :=
  dif_pos text.isValidUTF8

theorem toUTF8_of_fromUTF8? (isText : String.fromUTF8? bytes = some text) :
    bytes = text.toUTF8 := by
  unfold String.fromUTF8? at isText
  split at isText
  next =>
    cases isText
    rfl
  next => cases isText

theorem decode?_utf8 (text : List Char) : decode? (utf8 text) = some (String.ofList text) := by
  have isBytes : (String.ofList text).toUTF8.data.toList = utf8 text := by
    rw [toList_toUTF8, String.toList_ofList]
  rw [decode?, ← isBytes, Array.toArray_toList]
  exact fromUTF8?_toUTF8 _

/-! ## Many lines -/

theorem onRawLines_utf8 (handle : String → Output) (lines : List (List Char)) :
    onRawLines handle (lines.map utf8) =
      ⟨0, .join (((lines.map String.ofList).filter isWritten).map handle)⟩ := by
  induction lines with
  | nil => rfl
  | cons line lines ih =>
    rw [List.map_cons, onRawLines, decode?_utf8]
    dsimp only
    rw [ih, List.map_cons]
    by_cases written : isWritten (String.ofList line) = true
    · rw [if_pos written, List.filter_cons_of_pos written]
      rfl
    · rw [if_neg written, List.filter_cons_of_neg written]
      rfl

theorem map_snd_writtenLines (text : String) : (writtenLines text).map Prod.snd =
    ((Text.lines text.toList).map String.ofList).filter isWritten := by
  have lines : (numberedLines text).map Prod.snd =
      (Text.lines text.toList).map String.ofList := by
    refine List.ext_getElem? fun index => ?_
    rw [numberedLines, List.getElem?_map, List.getElem?_mapIdx, Option.map_map, List.getElem?_map]
    rfl
  rw [← lines, List.filter_map]
  rfl

theorem onLines_eq_join (handle : String → Output) (text : String) : onLines handle text =
    .join ((((Text.lines text.toList).map String.ofList).filter isWritten).map handle) := by
  rw [← map_snd_writtenLines, List.map_map]
  rfl

/-- A text that comes in is answered line by line. -/
theorem onInput_text (isText : String.fromUTF8? bytes = some text) :
    onInput (.ok bytes) handle = ⟨0, onLines handle text⟩ := by
  rw [toUTF8_of_fromUTF8? isText, onLines_eq_join, ← onRawLines_utf8, ← Text.byteLines_utf8,
    ← toList_toUTF8]
  rfl

/-- A text in a file is handed on. -/
theorem onFile_text (isText : String.fromUTF8? bytes = some text) (handle : String → Outcome) :
    onFile path (.ok bytes) handle = handle text := by
  rw [onFile]
  simp only [isText]

/-! ## One line -/

theorem lines_of_isWritten {line : String} (written : isWritten line = true)
    (noFeed : '\n' ∉ line.toList) : Text.lines line.toList = [line.toList] := by
  refine Text.linesWith_of_feed_notMem (fun empty => ?_) noFeed
  simp [isWritten, Text.isBlank, empty] at written

/-- A line alone is answered as among others. -/
theorem onLines_line {line : String} (written : isWritten line = true)
    (noFeed : '\n' ∉ line.toList) : onLines handle line = handle line := by
  rw [onLines_eq_join, lines_of_isWritten written noFeed, List.map_singleton, String.ofList_toList,
    List.filter_cons_of_pos written]
  simp [Output.join]

/-- A blank line alone is passed over. -/
theorem onLines_blank {line : String} (blank : isWritten line = false)
    (noFeed : '\n' ∉ line.toList) : onLines handle line = {} := by
  rw [onLines_eq_join]
  by_cases isNil : line.toList = []
  · rw [isNil]
    rfl
  · have isLine : Text.lines line.toList = [line.toList] :=
      Text.linesWith_of_feed_notMem isNil noFeed
    rw [isLine, List.map_singleton, String.ofList_toList, List.filter_cons_of_neg (by simp [blank])]
    rfl

end CommandLine

end MiniBasic
