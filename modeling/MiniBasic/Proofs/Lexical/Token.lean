import MiniBasic.Proofs.Lexical.Lexeme

/-!
# What a token carries

A token says a part of the text it was read from.  A keyword or a sign says all of it by its sort.
A name carries the text itself, a number its decimal value, and a string what stands between the
quotes (`Token.ReadFrom`).  So the rules make only some of the tokens there are: names that are no
keywords, numbers that are not negative, and strings that fit on one line
(`Token.IsReadable`).  Each of those is made, from the text it is written as
(`lexeme_text_of_isReadable`).
-/

namespace MiniBasic

namespace Token

/-- The words that are no names. -/
def reserved : List String := ["IF", "THEN", "ELSE", "FOR", "TO", "FUN"]

/-- Does a token say what the text it was read from says? -/
def ReadFrom (text : List Char) : Token → Prop
  | comment => False
  | newline => False
  | name ident => ident.toList = text ∧ ident ∉ reserved
  | number value =>
    value.toInt = Lexical.decimalValue text ∧ Lexical.decimalValue text < Lexical.numberBound
  | str inside =>
    text = '"' :: inside.toList ++ ['"'] ∧ '"' ∉ inside.toList ∧ '\n' ∉ inside.toList
  | token => text = token.lexeme.toList

/-- Can a token be read from some text? -/
def IsReadable : Token → Prop
  | comment => False
  | newline => False
  | name ident => Lexical.IsWord ident.toList ∧ ident ∉ reserved
  | number value => 0 ≤ value
  | str inside => '"' ∉ inside.toList ∧ '\n' ∉ inside.toList
  | _ => True

end Token

namespace Lexical

variable {text : List Char} {token : Token}

theorem mem_reserved_iff {ident : String} :
    ident ∈ Token.reserved ↔ ident.toList ∈ keywords.map Prod.fst := by
  have same : keywords.map Prod.fst = Token.reserved.map String.toList := by decide
  rw [same]
  constructor
  · exact List.mem_map_of_mem
  · intro isIn
    obtain ⟨other, isReserved, sameText⟩ := List.mem_map.mp isIn
    rw [← String.toList_inj.mp sameText]
    exact isReserved

theorem forall_isQuotable_iff :
    (∀ c ∈ text, isQuotable c = true) ↔ '"' ∉ text ∧ '\n' ∉ text := by
  simp only [isQuotable, Bool.and_eq_true, bne_iff_ne]
  constructor
  · intro quotable
    exact ⟨fun isIn => (quotable _ isIn).1 rfl, fun isIn => (quotable _ isIn).2 rfl⟩
  · rintro ⟨noQuote, noFeed⟩ c isIn
    constructor
    · rintro rfl
      exact noQuote isIn
    · rintro rfl
      exact noFeed isIn

/-- A number that fits in 64 bits keeps its value. -/
theorem toInt_ofNat_decimalValue (small : decimalValue text < numberBound) :
    (Int64.ofNat (decimalValue text)).toInt = decimalValue text :=
  Int64.toInt_ofNat_of_lt small

/-- What a rule makes of a text says what the text says. -/
theorem Lexeme.readFrom (lexeme : Lexeme text token) : token.ReadFrom text := by
  cases lexeme with
  | keyword keyword =>
    have isKeyword : ∀ entry ∈ keywords, entry.2.ReadFrom entry.1 := by
      simp [keywords, Token.ReadFrom, Token.lexeme]
    exact isKeyword _ keyword
  | pair pair =>
    have isPair : ∀ entry ∈ pairs, entry.2.ReadFrom entry.1 := by
      simp [pairs, Token.ReadFrom, Token.lexeme]
    exact isPair _ pair
  | sign sign =>
    have isSign : ∀ entry ∈ signs, entry.2.ReadFrom [entry.1] := by
      simp [signs, Token.ReadFrom, Token.lexeme]
    exact isSign _ sign
  | name word noKeyword =>
    refine ⟨String.toList_ofList, fun reserved => noKeyword ?_⟩
    rw [mem_reserved_iff, String.toList_ofList] at reserved
    exact reserved
  | number digits small => exact ⟨toInt_ofNat_decimalValue small, small⟩
  | @str inside quotable =>
    rw [Token.ReadFrom, String.toList_ofList]
    exact ⟨rfl, forall_isQuotable_iff.mp quotable⟩

/-- What a rule makes can be read. -/
theorem Lexeme.isReadable (lexeme : Lexeme text token) : token.IsReadable := by
  have readFrom := lexeme.readFrom
  cases lexeme with
  | keyword keyword =>
    have isKeyword : ∀ entry ∈ keywords, entry.2.IsReadable := by simp [keywords, Token.IsReadable]
    exact isKeyword _ keyword
  | pair pair =>
    have isPair : ∀ entry ∈ pairs, entry.2.IsReadable := by simp [pairs, Token.IsReadable]
    exact isPair _ pair
  | sign sign =>
    have isSign : ∀ entry ∈ signs, entry.2.IsReadable := by simp [signs, Token.IsReadable]
    exact isSign _ sign
  | name word _ =>
    rw [Token.IsReadable, readFrom.1]
    exact ⟨word, readFrom.2⟩
  | number _ _ =>
    rw [Token.IsReadable, Int64.le_iff_toInt_le, readFrom.1]
    exact Int.natCast_nonneg _
  | str _ => exact readFrom.2

/-! ## Written tokens -/

/-- A number that is not negative is written as digits with its value. -/
theorem toList_decimal {value : Int64} (isNat : 0 ≤ value) :
    IsDigits (Token.decimal value).toList ∧
      (decimalValue (Token.decimal value).toList : Int) = value.toInt := by
  obtain ⟨n, isValue⟩ := Int.eq_ofNat_of_zero_le (Int64.le_iff_toInt_le.mp isNat)
  have written : (Token.decimal value).toList = Nat.toDigits 10 n := by
    rw [Token.decimal, isValue]
    exact Nat.toList_repr
  rw [written, isValue]
  constructor
  · refine ⟨Nat.toDigits_ne_nil, fun c isIn => ?_⟩
    exact Nat.isDigit_of_mem_toDigits (by decide) (by decide) isIn
  · rw [decimalValue, Nat.ofDigitChars_toDigits (by decide) (by decide)]

/-- A token that can be read is read from the text it is written as. -/
theorem lexeme_text_of_isReadable (readable : token.IsReadable) :
    Lexeme token.text.toList token := by
  cases token with
  | name ident =>
    obtain ⟨word, noKeyword⟩ := readable
    have lexeme := Lexeme.name word (mt mem_reserved_iff.mpr noKeyword)
    rw [String.ofList_toList] at lexeme
    exact lexeme
  | number value =>
    obtain ⟨digits, isValue⟩ := toList_decimal readable
    have small : decimalValue (Token.decimal value).toList < numberBound := by
      have bound := value.toInt_lt
      rw [← isValue] at bound
      exact Int.ofNat_lt.mp bound
    have lexeme := Lexeme.number digits small
    have same : Int64.ofNat (decimalValue (Token.decimal value).toList) = value := by
      rw [← Int64.toInt_inj, toInt_ofNat_decimalValue small, isValue]
    rw [same] at lexeme
    exact lexeme
  | str inside =>
    have lexeme := Lexeme.str (forall_isQuotable_iff.mpr readable)
    rw [String.ofList_toList] at lexeme
    have written : (Token.str inside).text.toList = '"' :: inside.toList ++ ['"'] := by
      simp [Token.text]
    rw [written]
    exact lexeme
  | comment => exact readable.elim
  | newline => exact readable.elim
  | kwIf | kwThen | kwElse | kwFor | kwTo | kwFun => exact .keyword (by decide)
  | arrow | eqEq => exact .pair (by decide)
  | greater | less | assign | plus | minus | star | slash | lparen | rparen | comma | semicolon =>
    exact .sign (by decide)

end Lexical

end MiniBasic
