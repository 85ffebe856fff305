import RecordQuery.Log.Line
import RecordQuery.Proofs.StringLiteral
import RecordQuery.Proofs.OrderedJson
import RecordQuery.Proofs.Utf8Order

/-!
Contract: a log line is one JSON object on one line, and reading it gives back the record.

Owns:
- reading escaped text: every character's escape reads back as that character
  (`Json.stringBody_escapeChar`), so a whole escaped text between quotes reads as the text
  (`Json.parse_quoted_escape`);
- escaping leaves no control character (`Log.isControl_of_mem_escape`), so the line feed that
  ends a line is its only one;
- `Log.member` and `Log.Record.line_eq_members`: the line is `{`, the members `event`, `severity`
  and the fields in key order, separated by commas, then `}` and a line feed;
- reading a run of members into an object (`Json.fields_members`), and so
  `Log.Record.parse_line`: the line reads as the object of its members; an object built from
  distinct keys holds exactly its fields (`Json.objOf_perm`);
- `Log.Record.line_decodes`: with distinct keys, none of them `event` or `severity`, the line ends
  in its only line feed, holds no carriage return, lists its keys as the format says, and reads as
  exactly the object of the record's event, severity and fields.

The escapes are the reader's own: `\"`, `\\`, `\n`, `\r`, `\t`, and `\u` with four hexadecimal
digits for the other control characters, all below U+D800, so no escape is half of a surrogate
pair.
-/

set_option autoImplicit false

namespace RecordQuery

namespace Log

/-- One member of a log line: a key and a text value, each escaped between quotes. -/
def member (key value : String) : String := "\"" ++ escape key ++ "\":\"" ++ escape value ++ "\""

theorem isControl_hexDigit : ∀ n < 16, isControl (hexDigit n) = false := by
  decide

/-- No escape holds a control character: the short escapes and the hexadecimal digits are
printable, and a character that is written as itself is not a control character. -/
theorem isControl_of_mem_escapeChar {c ch : Char} (member : ch ∈ escapeChar c) : isControl ch = false := by
  have digit : ∀ n, isControl (hexDigit (n % 16)) = false :=
    fun n => isControl_hexDigit _ (Nat.mod_lt _ (by decide))
  unfold escapeChar at member
  split_ifs at member with quote backslash newline carriage tab control
  all_goals simp only [List.mem_cons, List.not_mem_nil, or_false] at member
  · rcases member with rfl | rfl <;> decide
  · rcases member with rfl | rfl <;> decide
  · rcases member with rfl | rfl <;> decide
  · rcases member with rfl | rfl <;> decide
  · rcases member with rfl | rfl <;> decide
  · rcases member with rfl | rfl | rfl | rfl | rfl | rfl
    all_goals first | decide | exact digit _
  · rw [member]
    exact Bool.eq_false_iff.mpr control

theorem isControl_of_mem_escape {s : String} {ch : Char} (member : ch ∈ (escape s).toList) :
    isControl ch = false := by
  rw [escape, String.toList_ofList] at member
  obtain ⟨c, _, inEscape⟩ := List.mem_flatMap.mp member
  exact isControl_of_mem_escapeChar inEscape

theorem toList_member (key value : String) :
    (member key value).toList =
      '"' :: ((escape key).toList ++ '"' :: ':' :: '"' :: ((escape value).toList ++ ['"'])) := by
  simp [member, String.toList_append]

end Log

namespace Json

theorem stringBody_simpleEscape {acc rest : List Char} {o : Nat} {e ch : Char} (notU : e ≠ 'u')
    (escape : simpleEscape? e = some ch) :
    stringBody acc ('\\' :: e :: rest) o = stringBody (ch :: acc) rest (o + 2) := by
  rw [stringBody.eq_5 _ _ _ _ notU, escape]

theorem hexValue?_hexDigit : ∀ n < 16, hexValue? (Log.hexDigit n) = some n := by
  decide

theorem hexEscape_of_hexValues {a b c d : Char} {va vb vc vd : Nat} (ha : hexValue? a = some va)
    (hb : hexValue? b = some vb) (hc : hexValue? c = some vc) (hd : hexValue? d = some vd)
    (rest : List Char) (o : Nat) :
    hexEscape (a :: b :: c :: d :: rest) o = .ok (((va * 16 + vb) * 16 + vc) * 16 + vd, rest, o + 4) := by
  simp only [hexEscape, ha, hb, hc, hd]

/-- Four hexadecimal digits of a code below `2 ^ 16`, most significant first, read back as it. -/
theorem hexEscape_hexDigits {n : Nat} (small : n < 65536) (rest : List Char) (o : Nat) :
    hexEscape (Log.hexDigit (n / 4096 % 16) :: Log.hexDigit (n / 256 % 16) ::
      Log.hexDigit (n / 16 % 16) :: Log.hexDigit (n % 16) :: rest) o = .ok (n, rest, o + 4) := by
  have digits : ((n / 4096 % 16 * 16 + n / 256 % 16) * 16 + n / 16 % 16) * 16 + n % 16 = n := by
    omega
  rw [hexEscape_of_hexValues (hexValue?_hexDigit _ (Nat.mod_lt _ (by decide)))
    (hexValue?_hexDigit _ (Nat.mod_lt _ (by decide))) (hexValue?_hexDigit _ (Nat.mod_lt _ (by decide)))
    (hexValue?_hexDigit _ (Nat.mod_lt _ (by decide))), digits]

/-- A `\u` escape of a code below the surrogates is the character of that code. -/
theorem unicodeEscape_of_hexEscape {rest r : List Char} {o o' n : Nat}
    (digits : hexEscape rest o = .ok (n, r, o')) (belowSurrogates : n < 0xD800) :
    unicodeEscape rest o = .ok (codePointChar n, r, o') := by
  rw [unicodeEscape, digits]
  simp only [bind, Except.bind]
  rw [if_neg (by omega), if_neg (by omega)]

/-- Every character's escape reads back as that character. -/
theorem stringBody_escapeChar (c : Char) (acc rest : List Char) (o : Nat) :
    ∃ o', stringBody acc (Log.escapeChar c ++ rest) o = stringBody (c :: acc) rest o' := by
  unfold Log.escapeChar
  split_ifs with quote backslash newline carriage tab control
  · subst quote
    exact ⟨o + 2, stringBody_simpleEscape (by decide) rfl⟩
  · subst backslash
    exact ⟨o + 2, stringBody_simpleEscape (by decide) rfl⟩
  · subst newline
    exact ⟨o + 2, stringBody_simpleEscape (by decide) rfl⟩
  · subst carriage
    exact ⟨o + 2, stringBody_simpleEscape (by decide) rfl⟩
  · subst tab
    exact ⟨o + 2, stringBody_simpleEscape (by decide) rfl⟩
  · -- A control character is below U+00A0, far from the surrogates.
    have small : c.val.toNat < 0xA0 := by
      simp only [Log.isControl, Bool.or_eq_true, decide_eq_true_eq, Bool.and_eq_true,
        UInt32.lt_iff_toNat_lt, UInt32.le_iff_toNat_le, UInt32.reduceToNat] at control
      omega
    refine ⟨o + 6, ?_⟩
    simp only [List.cons_append]
    rw [stringBody.eq_4, unicodeEscape_of_hexEscape (hexEscape_hexDigits (by omega) _ _) (by omega)]
    dsimp only
    rw [if_pos (by simp only [List.length_cons]; omega), List.nil_append, codePointChar]
    exact congrArg (fun ch => stringBody (ch :: acc) rest (o + 6)) (Char.ofNat_toNat c)
  · -- Any other character is its own escape: not a quote, not a backslash, not below U+0020.
    have printable : ¬c.toNat < 32 := by
      simp only [Log.isControl, Bool.or_eq_true, decide_eq_true_eq, Bool.and_eq_true, not_or,
        UInt32.lt_iff_toNat_lt, UInt32.reduceToNat] at control
      exact control.1
    exact ⟨o + c.utf8Size, by rw [List.singleton_append, stringBody.eq_6 _ _ _ _ quote backslash,
      if_neg printable]⟩

/-- Escaped characters read back as themselves, pushed onto what was read before them. -/
theorem stringBody_escaped (cs acc rest : List Char) (o : Nat) :
    ∃ o', stringBody acc (cs.flatMap Log.escapeChar ++ rest) o = stringBody (cs.reverse ++ acc) rest o' := by
  induction cs generalizing acc o with
  | nil => exact ⟨o, rfl⟩
  | cons c cs inductionHypothesis =>
    obtain ⟨o₁, first⟩ := stringBody_escapeChar c acc (cs.flatMap Log.escapeChar ++ rest) o
    obtain ⟨o₂, others⟩ := inductionHypothesis (c :: acc) o₁
    refine ⟨o₂, ?_⟩
    rw [List.flatMap_cons, List.append_assoc, first, others, List.reverse_cons, List.append_assoc,
      List.singleton_append]

/-- An escaped text and its closing quote read as the text. -/
theorem stringBody_escape (s : String) (rest : List Char) (o : Nat) :
    ∃ o', stringBody [] ((Log.escape s).toList ++ '"' :: rest) o = .ok (s, ⟨rest, o'⟩) := by
  obtain ⟨o', escaped⟩ := stringBody_escaped s.toList [] ('"' :: rest) o
  refine ⟨o' + 1, ?_⟩
  rw [Log.escape, String.toList_ofList, escaped, stringBody_quote, List.append_nil, List.reverse_reverse,
    String.ofList_toList]

/-- Reading inverts escaping: an escaped text between quotes reads as the text. -/
theorem parse_quoted_escape (s : String) : parse ("\"" ++ Log.escape s ++ "\"") = .ok (.str s) := by
  obtain ⟨o', body⟩ := stringBody_escape s [] 1
  rw [parse_eq_ok_iff]
  refine ⟨⟨[], o'⟩, ?_, rfl⟩
  rw [toList_quoted, value_quote, body]
  rfl

theorem Cursor.skipBlank_cons {ch : Char} (notBlank : (ch = ' ' || ch = '\n' || ch = '\t' || ch = '\r') = false)
    (r : List Char) (o : Nat) : Cursor.skipBlank ⟨ch :: r, o⟩ = ⟨ch :: r, o⟩ := by
  simp only [Cursor.skipBlank, Cursor.skipBlank.go, notBlank, Bool.false_eq_true, if_false]

theorem fields_close (fuel depth : Nat) (first : Bool) (acc : List (String × Json)) (r : List Char)
    (o : Nat) : fields (fuel + 1) depth first acc ⟨'}' :: r, o⟩ = .ok (.obj acc, ⟨r, o + 1⟩) := by
  unfold fields
  rw [Cursor.skipBlank_cons (by decide)]
  rfl

theorem value_brace (fuel : Nat) {depth : Nat} (deep : 1 < depth) (r : List Char) (o : Nat) :
    value (fuel + 1) depth ⟨'{' :: r, o⟩ = fields fuel (depth - 1) true [] ⟨r, o + 1⟩ := by
  unfold value
  rw [Cursor.skipBlank_cons (by decide)]
  exact if_neg (by omega)

theorem value_escape (fuel depth : Nat) (s : String) (rest : List Char) (o : Nat) :
    ∃ o', value (fuel + 1) depth ⟨'"' :: ((Log.escape s).toList ++ '"' :: rest), o⟩ = .ok (.str s, ⟨rest, o'⟩) := by
  obtain ⟨o', body⟩ := stringBody_escape s rest (o + 1)
  refine ⟨o', ?_⟩
  rw [value_quote, body]
  rfl

theorem fields_member (fuel depth : Nat) (first : Bool) (acc : List (String × Json)) (k v : String)
    (rest : List Char) (o : Nat) :
    ∃ o', fields (fuel + 2) depth first acc
        ⟨(if first then [] else [',']) ++ (Log.member k v).toList ++ rest, o⟩ =
      fields (fuel + 1) depth false (insertField k (.str v) acc) ⟨rest, o'⟩ := by
  cases first with
  | true =>
    obtain ⟨o₁, key⟩ := stringBody_escape k (':' :: '"' :: ((Log.escape v).toList ++ '"' :: rest)) (o + 1)
    obtain ⟨o₂, text⟩ := value_escape fuel depth v rest (o₁ + 1)
    refine ⟨o₂, ?_⟩
    rw [if_pos rfl, List.nil_append, Log.toList_member]
    simp only [List.cons_append, List.append_assoc]
    -- One step of the reader: the key, the colon and the value, up to the next member.
    conv_lhs => unfold fields
    simp only [Char.isValue, List.nil_append, Char.reduceEq, decide_false, Bool.or_self,
      Cursor.skipBlank_cons, imp_self, Bool.not_true, Bool.and_self, Bool.false_eq_true, reduceIte, key, text]
  | false =>
    obtain ⟨o₁, key⟩ := stringBody_escape k (':' :: '"' :: ((Log.escape v).toList ++ '"' :: rest)) (o + 1 + 1)
    obtain ⟨o₂, text⟩ := value_escape fuel depth v rest (o₁ + 1)
    refine ⟨o₂, ?_⟩
    rw [if_neg Bool.false_ne_true, Log.toList_member]
    simp only [List.cons_append, List.append_assoc]
    conv_lhs => unfold fields
    simp only [Char.isValue, List.nil_append, Char.reduceEq, decide_false, Bool.or_self,
      Cursor.skipBlank_cons, imp_self, decide_true, Bool.not_false, Bool.and_self, reduceIte, key, text]

/-- The characters of comma-led members. -/
def membersText (fs : List (String × String)) : List Char :=
  fs.flatMap fun f => ',' :: (Log.member f.1 f.2).toList

/-- Comma-led members and then the closing brace read as the object of those members, inserted
one by one; the fuel must outlast the members. -/
theorem fields_members (depth : Nat) (fs : List (String × String)) :
    ∀ (fuel : Nat) (acc : List (String × Json)) (rest : List Char) (o : Nat), fs.length < fuel →
      ∃ o', fields fuel depth false acc ⟨membersText fs ++ '}' :: rest, o⟩ =
        .ok (.obj (fs.foldl (fun acc f => insertField f.1 (.str f.2) acc) acc), ⟨rest, o'⟩) := by
  induction fs with
  | nil =>
    intro fuel acc rest o enough
    obtain ⟨n, rfl⟩ : ∃ n, fuel = n + 1 := ⟨fuel - 1, by simp at enough; omega⟩
    exact ⟨o + 1, fields_close n depth false acc rest o⟩
  | cons f fs inductionHypothesis =>
    intro fuel acc rest o enough
    obtain ⟨n, rfl⟩ : ∃ n, fuel = n + 2 := ⟨fuel - 2, by simp at enough; omega⟩
    obtain ⟨o₁, first⟩ := fields_member n depth false acc f.1 f.2 (membersText fs ++ '}' :: rest) o
    obtain ⟨o₂, others⟩ := inductionHypothesis (n + 1) (insertField f.1 (.str f.2) acc) rest o₁
      (by simp at enough; omega)
    have text : membersText (f :: fs) ++ '}' :: rest =
        (if false = true then [] else [',']) ++ (Log.member f.1 f.2).toList ++ (membersText fs ++ '}' :: rest) := by
      simp [membersText]
    exact ⟨o₂, by rw [text, first, others, List.foldl_cons]⟩

theorem length_le_membersText (fs : List (String × String)) : fs.length ≤ (membersText fs).length := by
  induction fs with
  | nil => exact Nat.zero_le _
  | cons f fs inductionHypothesis =>
    simp only [membersText, List.flatMap_cons, List.length_append, List.length_cons] at *
    omega

/-- An object of text members (a brace, the first member, the others each after a comma, a closing
brace) reads as the object of those members. -/
theorem value_object (fuel : Nat) {depth : Nat} (deep : 1 < depth) (f : String × String)
    (fs : List (String × String)) (rest : List Char) (o : Nat) (enough : fs.length + 3 < fuel) :
    ∃ o', value fuel depth ⟨'{' :: ((Log.member f.1 f.2).toList ++ membersText fs ++ '}' :: rest), o⟩ =
      .ok (objOf ((f :: fs).map fun f => (f.1, .str f.2)), ⟨rest, o'⟩) := by
  -- The brace and the first member take one step each, every further member one more, and the
  -- closing brace the last.
  obtain ⟨n, rfl⟩ : ∃ n, fuel = n + 3 := ⟨fuel - 3, by omega⟩
  obtain ⟨o₁, first⟩ := fields_member n (depth - 1) true [] f.1 f.2 (membersText fs ++ '}' :: rest) (o + 1)
  obtain ⟨o₂, others⟩ := fields_members (depth - 1) fs (n + 1) (insertField f.1 (.str f.2) []) rest o₁
    (by omega)
  rw [if_pos rfl, List.nil_append] at first
  refine ⟨o₂, ?_⟩
  rw [value_brace (n + 2) deep, List.append_assoc, first, others, objOf, List.foldl_map, List.foldl_cons]

/-- A fresh key is inserted as one more field. -/
theorem insertField_perm {key : String} (v : Json) {acc : List (String × Json)}
    (fresh : key ∉ acc.map Prod.fst) : (insertField key v acc).Perm ((key, v) :: acc) := by
  induction acc with
  | nil => exact List.Perm.refl _
  | cons field acc inductionHypothesis =>
    obtain ⟨k, w⟩ := field
    simp only [List.map_cons, List.mem_cons, not_or] at fresh
    unfold insertField
    split_ifs with below same
    · exact List.Perm.refl _
    · exact absurd same fresh.1
    · exact ((inductionHypothesis fresh.2).cons (k, w)).trans (List.Perm.swap (key, v) (k, w) acc)

/-- Inserting fields one by one, their keys distinct and new, keeps every one of them. -/
theorem foldl_insertField_perm (entries : List (String × Json)) :
    ∀ (acc : List (String × Json)), (entries.map Prod.fst).Nodup →
      (∀ key ∈ entries.map Prod.fst, key ∉ acc.map Prod.fst) →
      (entries.foldl (fun acc kv => insertField kv.1 kv.2 acc) acc).Perm (entries ++ acc) := by
  induction entries with
  | nil => exact fun acc _ _ => List.Perm.refl _
  | cons entry entries inductionHypothesis =>
    intro acc distinct fresh
    obtain ⟨key, v⟩ := entry
    simp only [List.map_cons, List.nodup_cons] at distinct
    have inserted := insertField_perm v (fresh key List.mem_cons_self)
    -- The keys still to come are new after this insertion too.
    have freshAfter : ∀ k ∈ entries.map Prod.fst, k ∉ (insertField key v acc).map Prod.fst := by
      intro k member
      rw [(inserted.map Prod.fst).mem_iff, List.map_cons, List.mem_cons, not_or]
      refine ⟨fun same => distinct.1 ?_, fresh k (List.mem_cons_of_mem _ member)⟩
      rwa [← show k = key from same]
    rw [List.foldl_cons]
    exact (inductionHypothesis _ distinct.2 freshAfter).trans
      ((inserted.append_left entries).trans List.perm_middle)

/-- An object built from fields with distinct keys holds exactly those fields. -/
theorem objOf_perm {entries : List (String × Json)} (distinct : (entries.map Prod.fst).Nodup) :
    ∃ fields, objOf entries = .obj fields ∧ fields.Perm entries := by
  refine ⟨_, rfl, ?_⟩
  have kept := foldl_insertField_perm entries [] distinct (fun _ _ absent => List.not_mem_nil absent)
  rwa [List.append_nil] at kept

end Json

namespace Log

theorem escape_event : escape "event" = "event" := by decide

theorem escape_severity : escape "severity" = "severity" := by decide

theorem escape_name (s : Severity) : escape s.name = s.name := by
  cases s <;> decide

/-- The line of a record: a brace, the event, the severity, each field after a comma in sorted
order, a closing brace and a line feed. -/
theorem Record.line_eq_members (r : Record) :
    r.line = "\x7b" ++ member "event" r.event ++ "," ++ member "severity" r.severity.name ++
      String.join ((sortedFields r.fields).map fun f => "," ++ member f.1 f.2) ++ "\x7d\n" := by
  apply String.toList_inj.mp
  simp only [Record.line, String.toList_append, String.reduceToList, List.cons_append, Char.isValue,
    List.nil_append, List.append_assoc, String.toList_join, List.flatMap_map, member, escape_event,
    String.reduceAppend, escape_severity, escape_name]

theorem Record.toList_line (r : Record) :
    r.line.toList = '{' :: ((member "event" r.event).toList ++
      Json.membersText (("severity", r.severity.name) :: sortedFields r.fields) ++ ['}', '\n']) := by
  rw [Record.line_eq_members]
  simp [String.toList_append, Json.membersText, String.toList_join, List.flatMap_map]

/-- A record's line reads as the object of its event, its severity and its sorted fields. -/
theorem Record.parse_line (r : Record) :
    Json.parse r.line = .ok (Json.objOf ((("event", r.event) :: ("severity", r.severity.name) ::
      sortedFields r.fields).map fun f => (f.1, .str f.2))) := by
  -- The reader's fuel, twice the length of the text, outlasts the members: each member is at
  -- least one character.
  have enough : (("severity", r.severity.name) :: sortedFields r.fields).length + 3 <
      2 * r.line.toList.length + 7 + 1 := by
    have members := Json.length_le_membersText (("severity", r.severity.name) :: sortedFields r.fields)
    rw [Record.toList_line]
    simp only [List.length_cons, List.length_append] at *
    omega
  obtain ⟨o, read⟩ := Json.value_object _ (by decide : 1 < 128) ("event", r.event)
    (("severity", r.severity.name) :: sortedFields r.fields) ['\n'] 0 enough
  rw [← Record.toList_line] at read
  rw [Json.parse_eq_ok_iff]
  exact ⟨⟨['\n'], o⟩, read, rfl⟩

theorem isControl_of_mem_member {key value : String} {ch : Char} (inMember : ch ∈ (member key value).toList) :
    isControl ch = false := by
  rw [toList_member] at inMember
  simp only [List.mem_cons, List.mem_append, List.not_mem_nil, or_false] at inMember
  rcases inMember with rfl | inKey | rfl | rfl | rfl | inValue | rfl
  all_goals first | decide | exact isControl_of_mem_escape ‹_›

theorem isControl_of_mem_membersText {fs : List (String × String)} {ch : Char}
    (inMembers : ch ∈ Json.membersText fs) : isControl ch = false := by
  obtain ⟨f, _, inMember⟩ := List.mem_flatMap.mp inMembers
  rcases List.mem_cons.mp inMember with rfl | inMember
  · decide
  · exact isControl_of_mem_member inMember

/-- A record's line is one line: it ends in a line feed, and what comes before holds no control
character, so no other line feed and no carriage return. -/
theorem Record.line_eq_body (r : Record) :
    ∃ body, r.line = body ++ "\n" ∧ ∀ ch ∈ body.toList, isControl ch = false := by
  refine ⟨String.ofList ('{' :: ((member "event" r.event).toList ++
    Json.membersText (("severity", r.severity.name) :: sortedFields r.fields) ++ ['}'])), ?_, ?_⟩
  · apply String.toList_inj.mp
    rw [Record.toList_line, String.toList_append, String.toList_ofList]
    simp
  · intro ch inBody
    rw [String.toList_ofList] at inBody
    simp only [List.mem_cons, List.mem_append, List.not_mem_nil, or_false] at inBody
    rcases inBody with rfl | (inEvent | inMembers) | rfl
    · decide
    · exact isControl_of_mem_member inEvent
    · exact isControl_of_mem_membersText inMembers
    · decide

/-- Sorting fields by key orders them by the UTF-8 bytes of their keys, strictly when the keys are
distinct. -/
theorem pairwise_sortedFields {fields : List (String × String)} (distinct : (fields.map Prod.fst).Nodup) :
    (sortedFields fields).Pairwise fun a b => Text.utf8Encode a.1 < Text.utf8Encode b.1 := by
  have sorted : (sortedFields fields).Pairwise fun a b => decide (a.1 ≤ b.1) = true :=
    @List.pairwise_mergeSort _ (fun a b => decide (a.1 ≤ b.1))
      (fun a b c ab bc => decide_eq_true (le_trans (of_decide_eq_true ab) (of_decide_eq_true bc)))
      (fun a b => by simpa only [Bool.or_eq_true, decide_eq_true_eq] using le_total a.1 b.1) fields
  have apart : (sortedFields fields).Pairwise fun a b => a.1 ≠ b.1 :=
    List.pairwise_map.mp (((List.mergeSort_perm fields _).map Prod.fst).nodup_iff.mpr distinct)
  refine (sorted.and apart).imp fun ⟨below, different⟩ => ?_
  exact (Text.utf8Encode_lt_iff _ _).mpr (lt_of_le_of_ne (of_decide_eq_true below) different)

/-- With distinct field keys, none of them `event` or `severity`, a record's line reads as an
object of exactly the record's event, severity and fields. -/
theorem Record.parse_line_perm (r : Record) (distinct : (r.fields.map Prod.fst).Nodup)
    (notEvent : "event" ∉ r.fields.map Prod.fst) (notSeverity : "severity" ∉ r.fields.map Prod.fst) :
    ∃ obj, Json.parse r.line = .ok (.obj obj) ∧
      obj.Perm (("event", .str r.event) :: ("severity", .str r.severity.name) ::
        r.fields.map fun f => (f.1, .str f.2)) := by
  have sorted : (sortedFields r.fields).Perm r.fields := List.mergeSort_perm _ _
  have sortedKeys := sorted.map Prod.fst
  -- Keying a text field by its key and its text keeps the key.
  have sameKeys : ∀ l : List (String × String), (l.map fun f => (f.1, Json.str f.2)).map Prod.fst = l.map Prod.fst := by
    intro l
    rw [List.map_map]
    rfl
  have keys : (((("event", r.event) :: ("severity", r.severity.name) :: sortedFields r.fields).map
      fun f => (f.1, Json.str f.2)).map Prod.fst).Nodup := by
    rw [sameKeys, List.map_cons, List.map_cons, List.nodup_cons, List.nodup_cons, List.mem_cons,
      sortedKeys.mem_iff, sortedKeys.mem_iff, sortedKeys.nodup_iff]
    exact ⟨not_or.mpr ⟨(by decide : ¬"event" = "severity"), notEvent⟩, notSeverity, distinct⟩
  obtain ⟨obj, built, kept⟩ := Json.objOf_perm keys
  refine ⟨obj, by rw [Record.parse_line, built], kept.trans ?_⟩
  exact ((sorted.map _).cons _).cons _

/-- A log line is one JSON object on one line that reads back as the record. When the field keys
are distinct and none is `event` or `severity`: the line ends in a line feed and has no other line
feed and no carriage return; it lists the event, the severity, and then the fields by increasing
UTF-8 bytes of their keys; it reads as an object of exactly the event, the severity and the fields;
and reading an escaped text between quotes gives the text back, whatever it holds. -/
theorem Record.line_decodes (r : Record) (distinct : (r.fields.map Prod.fst).Nodup)
    (notEvent : "event" ∉ r.fields.map Prod.fst) (notSeverity : "severity" ∉ r.fields.map Prod.fst) :
    (∃ body, r.line = body ++ "\n" ∧ '\n' ∉ body.toList ∧ '\r' ∉ body.toList) ∧
    (∃ fs : List (String × String), fs.Perm r.fields ∧
      fs.Pairwise (fun a b => Text.utf8Encode a.1 < Text.utf8Encode b.1) ∧
      r.line = "\x7b" ++ member "event" r.event ++ "," ++ member "severity" r.severity.name ++
        String.join (fs.map fun f => "," ++ member f.1 f.2) ++ "\x7d\n") ∧
    (∃ obj, Json.parse r.line = .ok (.obj obj) ∧
      obj.Perm (("event", .str r.event) :: ("severity", .str r.severity.name) ::
        r.fields.map fun f => (f.1, .str f.2))) ∧
    ∀ s, Json.parse ("\"" ++ escape s ++ "\"") = .ok (.str s) := by
  obtain ⟨body, line, printable⟩ := r.line_eq_body
  have noLineFeed : '\n' ∉ body.toList := fun inBody => absurd (printable _ inBody) (by decide)
  have noCarriageReturn : '\r' ∉ body.toList := fun inBody => absurd (printable _ inBody) (by decide)
  exact ⟨⟨body, line, noLineFeed, noCarriageReturn⟩,
    ⟨sortedFields r.fields, List.mergeSort_perm _ _, pairwise_sortedFields distinct, r.line_eq_members⟩,
    r.parse_line_perm distinct notEvent notSeverity, Json.parse_quoted_escape⟩

theorem line_decodes_escaped_fields :
    let r : Record := ⟨.warn, "PLAN_REJECTED", [("zebra", "tab\there"), ("apple", "say \"hi\"\n")]⟩
    (r.fields.map Prod.fst).Nodup ∧ "event" ∉ r.fields.map Prod.fst ∧
      "severity" ∉ r.fields.map Prod.fst ∧
      (∃ body, r.line = body ++ "\n" ∧ '\n' ∉ body.toList ∧ '\r' ∉ body.toList) ∧
      (∃ fs : List (String × String), fs.Perm r.fields ∧
        fs.Pairwise (fun a b => Text.utf8Encode a.1 < Text.utf8Encode b.1) ∧
        r.line = "\x7b" ++ member "event" r.event ++ "," ++ member "severity" r.severity.name ++
          String.join (fs.map fun f => "," ++ member f.1 f.2) ++ "\x7d\n") ∧
      (∃ obj, Json.parse r.line = .ok (.obj obj) ∧
        obj.Perm (("event", .str r.event) :: ("severity", .str r.severity.name) ::
          r.fields.map fun f => (f.1, .str f.2))) ∧
      ∀ s, Json.parse ("\"" ++ escape s ++ "\"") = .ok (.str s) :=
  ⟨by decide, by decide, by decide, Record.line_decodes _ (by decide) (by decide) (by decide)⟩

end Log

end RecordQuery
