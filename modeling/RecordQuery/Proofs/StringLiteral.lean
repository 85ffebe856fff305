import RecordQuery.Query.Literal
import Mathlib.Data.List.TakeWhile

/-!
Contract: what the reader makes of a text that starts with a quote, and what quote wrapping does
to an operand text.

Owns:
- `Json.isUnescaped`: the characters a string literal holds as themselves, neither the quote that
  would end it, nor the backslash that starts an escape, nor a control character U+0000–U+001F;
- reading a string body: a run of unescaped characters is taken over as it is
  (`stringBody_unescaped_append`); every read consumes at least the closing quote beyond what it
  yields (`stringBody_length`), and an escape at least one character more
  (`stringBody_escape_length`);
- `Json.parse_eq_ok_iff`: a text parses to a value when its one value is followed by blanks only;
  a text that starts with `"` parses, if at all, to a string (`parse_of_quote`), one that starts
  with `'` not at all (`parse_of_apostrophe`);
- `Query.normalize_wraps_unquoted_text`: an operand text that spells no number and starts with
  no quote normalises to itself exactly when it holds no quote, no backslash and no control
  character, and otherwise to a malformed literal or to another string; a text of such
  characters already between quotes normalises to the text inside, numeric or not, and a
  comparison operand written so coerces to it under any parameter table.

Wrapping in quotes escapes nothing, so the reader is the decoder of the wrapped text: a quote
inside ends the string early and leaves trailing characters, a backslash starts an escape that
reads two or more characters as one, and a control character is refused.
-/

set_option autoImplicit false

namespace RecordQuery

namespace Json

/-- A character a string literal holds as itself: not the quote that would end it, not the
backslash that starts an escape, not a control character U+0000–U+001F. -/
def isUnescaped (c : Char) : Bool := c != '"' && c != '\\' && 32 ≤ c.toNat

theorem isUnescaped_iff (c : Char) :
    isUnescaped c = true ↔ c ≠ '"' ∧ c ≠ '\\' ∧ 32 ≤ c.toNat := by
  simp [isUnescaped, and_assoc]

/-! ### String bodies -/

/-- A run of unescaped characters is taken over as it is. -/
theorem stringBody_unescaped_append (rest : List Char) :
    ∀ (run acc : List Char) (o : Nat), (∀ c ∈ run, isUnescaped c = true) →
      ∃ o', stringBody acc (run ++ rest) o = stringBody (run.reverse ++ acc) rest o'
  | [], acc, o, _ => ⟨o, rfl⟩
  | c :: run, acc, o, unescaped => by
    obtain ⟨notQuote, notBackslash, notControl⟩ :=
      (isUnescaped_iff c).mp (unescaped c List.mem_cons_self)
    obtain ⟨o', taken⟩ := stringBody_unescaped_append rest run (c :: acc) (o + c.utf8Size)
      (fun d member => unescaped d (List.mem_cons_of_mem c member))
    refine ⟨o', ?_⟩
    rw [List.cons_append, stringBody.eq_6 _ _ c _ notQuote notBackslash,
      if_neg (Nat.not_lt.mpr notControl), taken]
    simp

/-- The closing quote ends the body with the characters read so far. -/
theorem stringBody_quote (acc rest : List Char) (o : Nat) :
    stringBody acc ('"' :: rest) o = .ok (String.ofList acc.reverse, ⟨rest, o + 1⟩) :=
  stringBody.eq_2 acc o rest

/-- A body that is read consumes at least its closing quote beyond the characters it yields. -/
theorem stringBody_length {acc cs : List Char} {o : Nat} {s : String} {c : Cursor}
    (read : stringBody acc cs o = .ok (s, c)) : s.length + c.rest.length < acc.length + cs.length := by
  induction acc, cs, o using stringBody.induct generalizing s c with
  | case1 acc o => rw [stringBody.eq_1] at read; cases read
  | case2 acc r o =>
    rw [stringBody_quote] at read
    cases read
    simp
  | case3 acc o => rw [stringBody.eq_3] at read; cases read
  | case4 acc o r e escape =>
    rw [stringBody.eq_4, escape] at read
    cases read
  | case5 acc o r ch r'' o' escape shorter inductionHypothesis =>
    -- A `\u` escape reads at least one more character than the one it yields.
    rw [stringBody.eq_4, escape] at read
    simp only [shorter, if_true] at read
    have bound := inductionHypothesis read
    simp only [List.length_cons] at bound ⊢
    omega
  | case6 acc o r ch r'' o' escape notShorter =>
    rw [stringBody.eq_4, escape] at read
    simp only [notShorter, if_false] at read
    cases read
  | case7 acc o head tail notU d escape inductionHypothesis =>
    rw [stringBody.eq_5 _ _ _ _ notU, escape] at read
    have bound := inductionHypothesis read
    simp only [List.length_cons] at bound ⊢
    omega
  | case8 acc o head tail notU escape =>
    rw [stringBody.eq_5 _ _ _ _ notU, escape] at read
    cases read
  | case9 acc ch r o notQuote notBackslash control =>
    rw [stringBody.eq_6 _ _ _ _ notQuote notBackslash, if_pos control] at read
    cases read
  | case10 acc ch r o notQuote notBackslash notControl inductionHypothesis =>
    rw [stringBody.eq_6 _ _ _ _ notQuote notBackslash, if_neg notControl] at read
    have bound := inductionHypothesis read
    simp only [List.length_cons] at bound ⊢
    omega

/-- An escape reads two or more characters for the one it stands for, so a body that starts with
one yields fewer characters than it consumes, by one beyond the closing quote. -/
theorem stringBody_escape_length {acc cs : List Char} {o : Nat} {s : String} {c : Cursor}
    (read : stringBody acc ('\\' :: cs) o = .ok (s, c)) :
    s.length + c.rest.length < acc.length + cs.length := by
  cases cs with
  | nil => rw [stringBody.eq_3] at read; cases read
  | cons head tail =>
    by_cases isU : head = 'u'
    · subst isU
      rw [stringBody.eq_4] at read
      split at read
      · cases read
      · rename_i ch r'' o' _
        split at read
        · rename_i shorter
          have bound := stringBody_length read
          simp only [List.length_cons] at bound ⊢
          omega
        · cases read
    · rw [stringBody.eq_5 _ _ _ _ isU] at read
      split at read
      · have bound := stringBody_length read
        simp only [List.length_cons] at bound ⊢
        omega
      · cases read

/-- At a character that is not unescaped a body either ends there, with the characters read so
far, or goes on through an escape and yields fewer characters than it consumes; a control
character is refused. -/
theorem stringBody_stops_or_shortens {acc rest : List Char} {o : Nat} {bad : Char} {s : String}
    {c : Cursor} (escaped : isUnescaped bad = false) (read : stringBody acc (bad :: rest) o = .ok (s, c)) :
    (s = String.ofList acc.reverse ∧ c.rest = rest) ∨ s.length + c.rest.length < acc.length + rest.length := by
  by_cases quote : bad = '"'
  · subst quote
    rw [stringBody_quote] at read
    cases read
    exact .inl ⟨rfl, rfl⟩
  · by_cases backslash : bad = '\\'
    · subst backslash
      exact .inr (stringBody_escape_length read)
    · have control : bad.toNat < 32 := by
        simp only [isUnescaped, Bool.and_eq_false_iff, bne_eq_false_iff_eq, quote, backslash,
          decide_eq_false_iff_not, false_or] at escaped
        omega
      rw [stringBody.eq_6 _ _ _ _ quote backslash, if_pos control] at read
      cases read

/-! ### Whole texts -/

/-- Skipping blanks drops the leading spaces, line feeds, tabs and carriage returns. -/
theorem Cursor.rest_skipBlank (c : Cursor) :
    c.skipBlank.rest = c.rest.dropWhile (fun ch => ch = ' ' || ch = '\n' || ch = '\t' || ch = '\r') := by
  unfold Cursor.skipBlank
  generalize c.offset = o
  induction c.rest generalizing o with
  | nil => rfl
  | cons ch r inductionHypothesis =>
    rw [Cursor.skipBlank.go.eq_1, List.dropWhile_cons]
    split
    · exact inductionHypothesis (o + 1)
    · rfl

/-- A text reads as a value when its one value is followed by blanks only. The fuel is written as
a successor so that the first step of the value reader opens. -/
theorem parse_eq_ok_iff (text : String) (v : Json) :
    parse text = .ok v ↔
      ∃ c, value (2 * text.toList.length + 7 + 1) 128 ⟨text.toList, 0⟩ = .ok (v, c) ∧
        c.skipBlank.rest = [] := by
  unfold parse
  dsimp only
  cases whole : value (2 * text.toList.length + 7 + 1) 128 ⟨text.toList, 0⟩ with
  | error failure => simp [bind, Except.bind]
  | ok result =>
    obtain ⟨w, c⟩ := result
    by_cases blank : c.skipBlank.rest = []
    · simp only [bind, Except.bind, pure, Except.pure, blank, List.isEmpty_nil, if_true,
        Except.ok.injEq]
      constructor
      · rintro rfl
        exact ⟨c, rfl, blank⟩
      · rintro ⟨_, read, _⟩
        cases read
        rfl
    · simp [bind, Except.bind, throw, throwThe, MonadExceptOf.throw, blank]

/-- A value that starts with a quote is the string the body reads. -/
theorem value_quote (fuel depth : Nat) (r : List Char) (o : Nat) :
    value (fuel + 1) depth ⟨'"' :: r, o⟩ = (stringBody [] r (o + 1)).map fun (s, c) => (.str s, c) :=
  rfl

/-- No value starts with an apostrophe. -/
theorem value_apostrophe (fuel depth : Nat) (r : List Char) (o : Nat) :
    value (fuel + 1) depth ⟨'\'' :: r, o⟩ = .error (.expectedSomeValue, o + 1) :=
  rfl

/-- A text that starts with a quote reads, if at all, as a string, followed by blanks only. -/
theorem read_of_quote {text : String} {r : List Char} {v : Json} (starts : text.toList = '"' :: r)
    (read : parse text = .ok v) :
    ∃ s c, stringBody [] r 1 = .ok (s, c) ∧ v = .str s ∧ c.skipBlank.rest = [] := by
  obtain ⟨c, whole, blank⟩ := (parse_eq_ok_iff text v).mp read
  rw [starts, value_quote] at whole
  cases body : stringBody [] r (0 + 1) with
  | error failure => simp [body, Except.map] at whole
  | ok result =>
    obtain ⟨s, c'⟩ := result
    simp only [body, Except.map, Except.ok.injEq, Prod.mk.injEq] at whole
    obtain ⟨isString, sameCursor⟩ := whole
    exact ⟨s, c', rfl, isString.symm, sameCursor ▸ blank⟩

/-- A text that starts with a quote parses, if at all, to a string. -/
theorem parse_of_quote {text : String} {r : List Char} {v : Json} (starts : text.toList = '"' :: r)
    (read : parse text = .ok v) : ∃ s, v = .str s := by
  obtain ⟨s, c, _, isString, _⟩ := read_of_quote starts read
  exact ⟨s, isString⟩

/-- A text that starts with an apostrophe does not parse. -/
theorem parse_of_apostrophe {text : String} {r : List Char} {v : Json}
    (starts : text.toList = '\'' :: r) : parse text ≠ .ok v := by
  intro read
  obtain ⟨c, whole, _⟩ := (parse_eq_ok_iff text v).mp read
  rw [starts, value_apostrophe] at whole
  cases whole

/-- The characters of a text between quotes. -/
theorem toList_quoted (u : String) : ("\"" ++ u ++ "\"").toList = '"' :: (u.toList ++ ['"']) := by
  simp [String.toList_append]

/-- Unescaped characters between quotes read as the string they spell. -/
theorem parse_quoted_unescaped {u : String} (unescaped : ∀ c ∈ u.toList, isUnescaped c = true) :
    parse ("\"" ++ u ++ "\"") = .ok (.str u) := by
  obtain ⟨o', taken⟩ := stringBody_unescaped_append ['"'] u.toList [] 1 unescaped
  rw [parse_eq_ok_iff]
  refine ⟨⟨[], o' + 1⟩, ?_, rfl⟩
  rw [toList_quoted, value_quote, taken, stringBody_quote]
  simp [Except.map]

/-- A text between quotes reads as itself only when all its characters are unescaped. -/
theorem unescaped_of_parse_quoted {t : String} (read : parse ("\"" ++ t ++ "\"") = .ok (.str t)) :
    ∀ c ∈ t.toList, isUnescaped c = true := by
  obtain ⟨s, c, body, isString, blank⟩ := read_of_quote (toList_quoted t) read
  cases isString
  -- Split the text at its first character that is not unescaped, if there is one.
  cases escapedPart : t.toList.dropWhile isUnescaped with
  | nil => exact List.dropWhile_eq_nil_iff.mp escapedPart
  | cons bad after =>
    have escaped : isUnescaped bad = false := by
      have head := List.head_dropWhile_not isUnescaped (l := t.toList) (by simp [escapedPart])
      simpa [escapedPart] using head
    have parts : t.toList = t.toList.takeWhile isUnescaped ++ bad :: after := by
      rw [← escapedPart, List.takeWhile_append_dropWhile]
    obtain ⟨o', taken⟩ := stringBody_unescaped_append (bad :: (after ++ ['"']))
      (t.toList.takeWhile isUnescaped) [] 1 (fun d member => List.mem_takeWhile_imp member)
    rw [parts, List.append_assoc, List.cons_append, taken, List.append_nil] at body
    rcases stringBody_stops_or_shortens escaped body with ⟨_, restAfter⟩ | shorter
    · -- The body ended at a quote inside the text: a quote is left over after it.
      rw [Cursor.rest_skipBlank, restAfter, List.dropWhile_eq_nil_iff] at blank
      simpa using blank '"' (by simp)
    · -- The body went through an escape and is shorter than the text.
      have whole := congrArg List.length parts
      simp only [List.length_append, List.length_cons, List.length_nil, List.length_reverse]
        at shorter whole
      rw [String.length_toList] at whole
      omega

end Json

namespace Text

/-- Trimming a text that starts with a character that is not blank keeps that first character. -/
theorem head?_trimBlankChars {c : Char} (notBlank : isBlank c = false) (rest : List Char) :
    (trimBlankChars (c :: rest)).head? = some c := by
  unfold trimBlankChars
  rw [List.dropWhile_cons_of_neg (by simp [notBlank]), List.reverse_cons, List.dropWhile_append]
  have last : [c].dropWhile isBlank = [c] := List.dropWhile_cons_of_neg (by simp [notBlank])
  split <;> simp [last]

end Text

namespace Loose

/-- A text that starts with a quote spells no number. -/
theorem numericLiteral?_of_quote {text : String} {r : List Char} (starts : text.toList = '"' :: r) :
    numericLiteral? text = none := by
  obtain ⟨rest, trimmed⟩ : ∃ rest, Text.trimBlankChars text.toList = '"' :: rest := by
    rw [starts]
    exact List.head?_eq_some_iff.mp (Text.head?_trimBlankChars (by decide) r)
  simp [numericLiteral?, parseNumber, trimmed, radixBody?, radixPrefixes, isDecimalChar,
    Binary64.isNaN, Binary64.nan]

end Loose

namespace Query

/-- A text that starts with no quote is wrapped in double quotes. -/
theorem quotedLiteral_of_unquoted {t : String} (notQuote : t.toList.head? ≠ some '"')
    (notApostrophe : t.toList.head? ≠ some '\'') : quotedLiteral t = "\"" ++ t ++ "\"" := by
  unfold quotedLiteral
  split <;> simp_all

/-- A text that spells no number normalises to what its quoted literal reads as. -/
theorem normalize_of_parse {field t : String} (notNumeric : Loose.numericLiteral? t = none)
    {v : Json} (read : Json.parse (quotedLiteral t) = .ok v) :
    normalize field (some (.str t)) = .ok (some v) := by
  unfold normalize
  simp only [notNumeric]
  rw [read]

/-- A text that spells no number and whose quoted literal does not read is a malformed literal,
reported with that quoted literal. -/
theorem normalize_of_parse_error {field t : String} (notNumeric : Loose.numericLiteral? t = none)
    {e : Json.ReadError} (read : Json.parse (quotedLiteral t) = .error e) :
    normalize field (some (.str t)) =
      .error (.malformedLiteral field (quotedLiteral t) (.unreadable e)) := by
  unfold normalize
  simp only [notNumeric]
  rw [read]

/-- A text that spells no number and normalises has a quoted literal that reads. -/
theorem parse_of_normalize {field t : String} (notNumeric : Loose.numericLiteral? t = none)
    {result : Option Json} (normalized : normalize field (some (.str t)) = .ok result) :
    ∃ v, Json.parse (quotedLiteral t) = .ok v ∧ result = some v := by
  cases read : Json.parse (quotedLiteral t) with
  | ok v =>
    rw [normalize_of_parse notNumeric read] at normalized
    cases normalized
    exact ⟨v, rfl, rfl⟩
  | error e =>
    rw [normalize_of_parse_error notNumeric read] at normalized
    cases normalized

/-- A text that does not start with `@` names no parameter, whatever the parameter table. -/
theorem substitute_of_unreferenced (params : Option Params) {t : String}
    (notReference : t.toList.head? ≠ some '@') : substitute params (some (.str t)) = some (.str t) := by
  unfold substitute
  cases params with
  | none => rfl
  | some table =>
    dsimp only
    split
    · rename_i name named
      simp [named] at notReference
    · rfl

/-- A text that names no parameter reaches normalisation unchanged in a comparison leaf, whatever
the parameter table. -/
theorem coerce_of_unreferenced (params : Option Params) (field : String) {t : String}
    (notReference : t.toList.head? ≠ some '@') :
    coerce params field (some (.str t)) false = normalize field (some (.str t)) := by
  unfold coerce
  rw [substitute_of_unreferenced params notReference]
  rfl

/-- Quote wrapping reads plain text back: an operand text that spells no number and starts with
no quote normalises to itself exactly when it holds no quote, no backslash and no control
character; otherwise to a malformed literal or to another string. A text of such characters
already between quotes normalises to the text inside, whether it spells a number or not, and so
a comparison's operand written so coerces to that text under any parameter table. -/
theorem normalize_wraps_unquoted_text (field : String) :
    (∀ t : String, Loose.numericLiteral? t = none → t.toList.head? ≠ some '"' →
      t.toList.head? ≠ some '\'' →
        (normalize field (some (.str t)) = .ok (some (.str t)) ↔
          ∀ c ∈ t.toList, c ≠ '"' ∧ c ≠ '\\' ∧ 32 ≤ c.toNat) ∧
        (¬(∀ c ∈ t.toList, c ≠ '"' ∧ c ≠ '\\' ∧ 32 ≤ c.toNat) →
          (∃ e, normalize field (some (.str t)) =
              .error (.malformedLiteral field ("\"" ++ t ++ "\"") (.unreadable e))) ∨
            ∃ s, s ≠ t ∧ normalize field (some (.str t)) = .ok (some (.str s)))) ∧
    ∀ u : String, (∀ c ∈ u.toList, c ≠ '"' ∧ c ≠ '\\' ∧ 32 ≤ c.toNat) →
      normalize field (some (.str ("\"" ++ u ++ "\""))) = .ok (some (.str u)) ∧
        ∀ params, coerce params field (some (.str ("\"" ++ u ++ "\""))) false = .ok (some (.str u)) := by
  simp only [← Json.isUnescaped_iff]
  refine ⟨?unquoted, ?quoted⟩
  case unquoted =>
    intro t notNumeric notQuote notApostrophe
    have wrapped := quotedLiteral_of_unquoted notQuote notApostrophe
    refine ⟨⟨?onlyIfUnescaped, ?ifUnescaped⟩, ?otherwise⟩
    case onlyIfUnescaped =>
      intro normalized
      obtain ⟨v, read, sameValue⟩ := parse_of_normalize notNumeric normalized
      cases sameValue
      rw [wrapped] at read
      exact Json.unescaped_of_parse_quoted read
    case ifUnescaped =>
      intro unescaped
      have read := Json.parse_quoted_unescaped unescaped
      rw [← wrapped] at read
      exact normalize_of_parse notNumeric read
    case otherwise =>
      intro notUnescaped
      cases read : Json.parse (quotedLiteral t) with
      | ok v =>
        -- The quoted text read as a string, which is not the text itself.
        have readWrapped := read
        rw [wrapped] at readWrapped
        obtain ⟨s, rfl⟩ := Json.parse_of_quote (Json.toList_quoted t) readWrapped
        refine .inr ⟨s, ?_, normalize_of_parse notNumeric read⟩
        rintro rfl
        exact notUnescaped (Json.unescaped_of_parse_quoted readWrapped)
      | error e =>
        rw [← wrapped]
        exact .inl ⟨e, normalize_of_parse_error notNumeric read⟩
  case quoted =>
    intro u unescaped
    have starts := Json.toList_quoted u
    have quoted : quotedLiteral ("\"" ++ u ++ "\"") = "\"" ++ u ++ "\"" := by
      simp [quotedLiteral, starts]
    have read := Json.parse_quoted_unescaped unescaped
    rw [← quoted] at read
    have normalized : normalize field (some (.str ("\"" ++ u ++ "\""))) = .ok (some (.str u)) :=
      normalize_of_parse (Loose.numericLiteral?_of_quote starts) read
    refine ⟨normalized, fun params => ?_⟩
    rw [coerce_of_unreferenced params field (by simp [starts]), normalized]

/-- The text `say "hi"` holds a quote and spells no number, so it does not normalise to itself;
the text `2007` between quotes normalises, and coerces, to the string `2007`, not to a number. -/
theorem normalize_wraps_greeting_and_quoted_year :
    (Loose.numericLiteral? "say \"hi\"" = none ∧ "say \"hi\"".toList.head? ≠ some '"' ∧
      "say \"hi\"".toList.head? ≠ some '\'' ∧
      ((normalize "f" (some (.str "say \"hi\"")) = .ok (some (.str "say \"hi\"")) ↔
          ∀ c ∈ "say \"hi\"".toList, c ≠ '"' ∧ c ≠ '\\' ∧ 32 ≤ c.toNat) ∧
        (¬(∀ c ∈ "say \"hi\"".toList, c ≠ '"' ∧ c ≠ '\\' ∧ 32 ≤ c.toNat) →
          (∃ e, normalize "f" (some (.str "say \"hi\"")) =
              .error (.malformedLiteral "f" ("\"" ++ "say \"hi\"" ++ "\"") (.unreadable e))) ∨
            ∃ s, s ≠ "say \"hi\"" ∧
              normalize "f" (some (.str "say \"hi\"")) = .ok (some (.str s))))) ∧
    (∀ c ∈ "2007".toList, c ≠ '"' ∧ c ≠ '\\' ∧ 32 ≤ c.toNat) ∧
      normalize "f" (some (.str ("\"" ++ "2007" ++ "\""))) = .ok (some (.str "2007")) ∧
      ∀ params, coerce params "f" (some (.str ("\"" ++ "2007" ++ "\""))) false =
        .ok (some (.str "2007")) := by
  have notNumeric : Loose.numericLiteral? "say \"hi\"" = none := by decide
  have notQuote : "say \"hi\"".toList.head? ≠ some '"' := by decide
  have notApostrophe : "say \"hi\"".toList.head? ≠ some '\'' := by decide
  have unescaped : ∀ c ∈ "2007".toList, c ≠ '"' ∧ c ≠ '\\' ∧ 32 ≤ c.toNat := by simp
  exact ⟨⟨notNumeric, notQuote, notApostrophe,
      (normalize_wraps_unquoted_text "f").1 _ notNumeric notQuote notApostrophe⟩,
    unescaped, (normalize_wraps_unquoted_text "f").2 _ unescaped⟩

/-- A backslash starts an escape: `a\nb` normalises to a different, shorter string. -/
example : normalize "f" (some (.str "a\\nb")) = .ok (some (.str "a\nb")) := by
  with_unfolding_all rfl

end Query

end RecordQuery
