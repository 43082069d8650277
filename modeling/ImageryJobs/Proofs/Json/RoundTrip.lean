import ImageryJobs.Json.Printer
import ImageryJobs.Json.Raw
import ImageryJobs.Proofs.Members

/-!
What was written is read back: the text of a value has the tokens of the value, the tokens have its
tree, and the tree has the value. Of numbers it is only used that their texts are literals; that such
a literal has the number that was written is left to each kind of number.
-/

namespace ImageryJobs.Json

/-! ### Numbers -/

namespace Number

/-- The number that its text is read as. -/
def reread (n : Number) : Option Number := (Literal.parse? n.text).bind Literal.value?

/-- The text of the number is a literal. -/
structure Written (n : Number) : Prop where
  begins : ∃ c cs, n.text = c :: cs ∧ (c.isDigit = true ∨ c = '-')
  chars : ∀ c ∈ n.text, Token.isNumberChar c = true
  parses : ∃ l, Literal.parse? n.text = some l

/-- The text of the number is a literal of it. -/
def Legible (n : Number) : Prop := n.Written ∧ n.reread = some n

end Number

/-! ### Values -/

mutual

/-- Every number in a value has `P`. -/
def EveryNumber (P : Number → Prop) : Json → Prop
  | .null | .bool _ | .string _ => True
  | .number n => P n
  | .array items => EveryNumberOf P items
  | .object members => EveryNumberIn P members

def EveryNumberOf (P : Number → Prop) : List Json → Prop
  | [] => True
  | x :: xs => EveryNumber P x ∧ EveryNumberOf P xs

def EveryNumberIn (P : Number → Prop) : List (String × Json) → Prop
  | [] => True
  | (_, x) :: xs => EveryNumber P x ∧ EveryNumberIn P xs

end

mutual

/-- How deep arrays and objects are nested. -/
def depth : Json → Nat
  | .null | .bool _ | .string _ | .number _ => 0
  | .array items => depthOf items + 1
  | .object members => depthIn members + 1

def depthOf : List Json → Nat
  | [] => 0
  | x :: xs => max (depth x) (depthOf xs)

def depthIn : List (String × Json) → Nat
  | [] => 0
  | (_, x) :: xs => max (depth x) (depthIn xs)

end

mutual

/-- The members of all objects in a value are in ascending order. -/
def Ascending : Json → Prop
  | .null | .bool _ | .string _ | .number _ => True
  | .array items => AscendingOf items
  | .object members => members.Pairwise (fun a b => a.1 < b.1) ∧ AscendingIn members

def AscendingOf : List Json → Prop
  | [] => True
  | x :: xs => Ascending x ∧ AscendingOf xs

def AscendingIn : List (String × Json) → Prop
  | [] => True
  | (_, x) :: xs => Ascending x ∧ AscendingIn xs

end

/-! ### Tokens -/

mutual

/-- The tokens of a value. -/
def tokens : Json → List Token
  | .null => [.null]
  | .bool value => [.bool value]
  | .number n => [.number n.reread]
  | .string text => [.string (some text)]
  | .array items => .openBracket :: (tokensOf items ++ [.closeBracket])
  | .object members => .openBrace :: (tokensIn members ++ [.closeBrace])

def tokensOf : List Json → List Token
  | [] => []
  | [x] => tokens x
  | x :: y :: xs => tokens x ++ .comma :: tokensOf (y :: xs)

def tokensIn : List (String × Json) → List Token
  | [] => []
  | [(key, x)] => .string (some key) :: .colon :: tokens x
  | (key, x) :: y :: xs => .string (some key) :: .colon :: (tokens x ++ .comma :: tokensIn (y :: xs))

end

namespace Token

variable {before : List Token}

/-! #### Strings -/

theorem hexValue?_hexDigit : ∀ n < 16, hexValue? (hexDigit n) = some n := by decide

/-- A string literal that is read as far as these characters, last first. -/
def literal (chars : List Char) : Literal := ⟨chars, none, true⟩

theorem scan_escape (c : Char) (chars : List Char) :
    (escape c).foldlM step ⟨before, .text (literal chars)⟩ =
      some ⟨before, .text (literal (c :: chars))⟩ := by
  have self : c = Char.ofNat c.toNat := by simp
  unfold escape
  split
  · rename_i h
    subst h
    rfl
  split
  · rename_i h
    subst h
    rfl
  split
  · rename_i hquote hslash h
    simp [step, hquote, hslash, Nat.not_lt.2 h, literal, Literal.push]
  rename_i h
  split
  case h_6 =>
    have hi := hexValue?_hexDigit (c.toNat / 16) (by omega)
    have lo := hexValue?_hexDigit (c.toNat % 16) (by omega)
    have zero : hexValue? '0' = some 0 := rfl
    have whole : 16 * (c.toNat / 16) + c.toNat % 16 = c.toNat := by omega
    have single : ¬ 0xD800 ≤ c.toNat ∧ ¬ 0xDC00 ≤ c.toNat := by omega
    simp [step, literal, hi, lo, zero, whole, Literal.pushUnit, single, Literal.push]
  all_goals
    rename_i hn
    rw [self, hn]
    rfl

theorem scan_quote (text : String) :
    (quote text).toList.foldlM step ⟨before, .gap⟩ = some ⟨.string (some text) :: before, .gap⟩ := by
  -- A literal keeps its characters last first, so that the induction is on those still to come.
  have body : ∀ cs chars : List Char, (cs.flatMap escape).foldlM step ⟨before, .text (literal chars)⟩ =
      some ⟨before, .text (literal (cs.reverse ++ chars))⟩ := by
    intro cs
    induction cs with
    | nil => exact fun _ => rfl
    | cons c cs ih =>
        intro chars
        rw [List.flatMap_cons, List.foldlM_append, scan_escape, Option.bind_eq_bind, Option.bind_some, ih]
        simp
  have opened : step ⟨before, .gap⟩ '"' = some ⟨before, .text (literal [])⟩ := rfl
  have closed : step ⟨before, .text (literal text.toList.reverse)⟩ '"' =
      some ⟨.string (some text) :: before, .gap⟩ := by
    simp [step, literal, Literal.text?]
  have parts : (quote text).toList = '"' :: (text.toList.flatMap escape ++ ['"']) := by
    simp [quote, String.toList_append]
  rw [parts, List.foldlM_cons, opened, Option.bind_eq_bind, Option.bind_some, List.foldlM_append, body,
    List.append_nil, Option.bind_eq_bind, Option.bind_some, List.foldlM_cons, closed]
  rfl

/-! #### Values -/

/-- The characters that may come after a value. -/
def isDelimiter (c : Char) : Prop := c = ',' ∨ c = ']' ∨ c = '\x7d'

/-- So many tokens were scanned, and the last of them is complete unless more characters of it come. -/
structure Scanned (s : Scan) (tokens : List Token) : Prop where
  close : s.close = some tokens
  delimited : ∀ c, isDelimiter c → step s c = enter tokens c

theorem scanned_gap (tokens : List Token) : Scanned ⟨tokens, .gap⟩ tokens := ⟨rfl, fun _ _ => rfl⟩

theorem scan_number {n : Number} (h : n.Written) :
    ∃ s, n.text.foldlM step ⟨before, .gap⟩ = some s ∧ Scanned s (.number n.reread :: before) := by
  obtain ⟨c, cs, htext, hc⟩ := h.begins
  obtain ⟨l, hl⟩ := h.parses
  have chars := h.chars
  rw [htext] at chars
  have rest : ∀ (cs chars : List Char), (∀ c ∈ cs, isNumberChar c = true) →
      cs.foldlM step ⟨before, .digits chars⟩ = some ⟨before, .digits (cs.reverse ++ chars)⟩ := by
    intro cs
    induction cs with
    | nil => exact fun _ _ => rfl
    | cons c cs ih =>
        intro chars hcs
        obtain ⟨hc, hcs⟩ := List.forall_mem_cons.1 hcs
        have more : step ⟨before, .digits chars⟩ c = some ⟨before, .digits (c :: chars)⟩ := if_pos hc
        rw [List.foldlM_cons, more, Option.bind_eq_bind, Option.bind_some, ih _ hcs]
        simp
  have first : step ⟨before, .gap⟩ c = some ⟨before, .digits [c]⟩ := by
    change enter before c = _
    unfold enter
    split <;> first | exact absurd hc (by decide) | exact if_pos hc
  have closed : Scan.close ⟨before, .digits n.text.reverse⟩ = some (.number n.reread :: before) := by
    simp [Scan.close, Number.reread, hl]
  refine ⟨⟨before, .digits n.text.reverse⟩, ?_, closed, fun c hc => ?_⟩
  · rw [htext, List.foldlM_cons, first, Option.bind_eq_bind, Option.bind_some,
      rest cs [c] fun c hc => chars c (List.mem_cons_of_mem _ hc)]
    simp
  · have ends : isNumberChar c = false := by
      obtain rfl | rfl | rfl := hc <;> rfl
    simp [step, ends, closed]

theorem scan_word (word : List Char) {token : Token} (hw : ofWord? word = some token)
    (hscan : word.foldlM step ⟨before, .gap⟩ = some ⟨before, .word word.reverse⟩) :
    ∃ s, word.foldlM step ⟨before, .gap⟩ = some s ∧ Scanned s (token :: before) := by
  have closed : Scan.close ⟨before, .word word.reverse⟩ = some (token :: before) := by
    simp [Scan.close, hw]
  refine ⟨_, hscan, closed, fun c hc => ?_⟩
  have ends : c.isLower = false := by
    obtain rfl | rfl | rfl := hc <;> rfl
  simp [step, ends, closed]

/-- A value, a comma, and more. -/
theorem scan_comma {s : Scan} {done : List Token} {text more : List Char} {start : Scan}
    (h : text.foldlM step start = some s) (scanned : Scanned s done) :
    (text ++ ',' :: more).foldlM step start = more.foldlM step ⟨.comma :: done, .gap⟩ := by
  have comma : step s ',' = some ⟨.comma :: done, .gap⟩ := scanned.delimited ',' (.inl rfl)
  rw [List.foldlM_append, h, Option.bind_eq_bind, Option.bind_some, List.foldlM_cons, comma]
  rfl

/-- An opening bracket, and what was scanned up to the closing one. -/
theorem scan_brackets {s : Scan} {done : List Token} {text : List Char} {opening closing : Char}
    {first last : Token} (hopen : enter before opening = some ⟨first :: before, .gap⟩)
    (h : text.foldlM step ⟨first :: before, .gap⟩ = some s) (scanned : Scanned s done)
    (hd : isDelimiter closing) (hclose : enter done closing = some ⟨last :: done, .gap⟩) :
    (opening :: (text ++ [closing])).foldlM step ⟨before, .gap⟩ = some ⟨last :: done, .gap⟩ := by
  have opened : step ⟨before, .gap⟩ opening = some ⟨first :: before, .gap⟩ := hopen
  have closed : step s closing = some ⟨last :: done, .gap⟩ := (scanned.delimited closing hd).trans hclose
  rw [List.foldlM_cons, opened, Option.bind_eq_bind, Option.bind_some, List.foldlM_append, h,
    Option.bind_eq_bind, Option.bind_some, List.foldlM_cons, closed]
  rfl

/-- The name of a member, a colon, and the value. -/
theorem scan_member {key : String} {text : List Char} {s : Scan}
    (h : text.foldlM step ⟨.colon :: .string (some key) :: before, .gap⟩ = some s) :
    ((quote key).toList ++ ':' :: text).foldlM step ⟨before, .gap⟩ = some s := by
  rw [List.foldlM_append, scan_quote]
  exact h

mutual

/-- The tokens of the text of a value. -/
theorem scan_render : ∀ (j : Json), EveryNumber Number.Written j → ∀ before : List Token,
    ∃ s, (render j).toList.foldlM step ⟨before, .gap⟩ = some s ∧ Scanned s ((tokens j).reverse ++ before)
  | .null, _, before => scan_word ['n', 'u', 'l', 'l'] rfl rfl
  | .bool true, _, before => scan_word ['t', 'r', 'u', 'e'] rfl rfl
  | .bool false, _, before => scan_word ['f', 'a', 'l', 's', 'e'] rfl rfl
  | .number n, h, before => by
      rw [render, String.toList_ofList]
      exact scan_number h
  | .string text, _, before => ⟨_, scan_quote text, scanned_gap _⟩
  | .array items, h, before => by
      obtain ⟨s, hs, scanned⟩ := scan_items items h (.openBracket :: before)
      have text : (render (.array items)).toList =
          '[' :: ([','].intercalate ((renderItems items).map String.toList) ++ [']']) := by
        simp [render, String.toList_append, String.toList_intercalate]
      rw [text]
      refine ⟨_, scan_brackets rfl hs scanned (.inr (.inl rfl)) rfl, ?_⟩
      simpa [tokens] using scanned_gap (.closeBracket :: ((tokensOf items).reverse ++ .openBracket :: before))
  | .object members, h, before => by
      obtain ⟨s, hs, scanned⟩ := scan_members members h (.openBrace :: before)
      have text : (render (.object members)).toList =
          '\x7b' :: ([','].intercalate ((renderMembers members).map String.toList) ++ ['\x7d']) := by
        simp [render, String.toList_append, String.toList_intercalate]
      rw [text]
      refine ⟨_, scan_brackets rfl hs scanned (.inr (.inr rfl)) rfl, ?_⟩
      simpa [tokens] using scanned_gap (.closeBrace :: ((tokensIn members).reverse ++ .openBrace :: before))

theorem scan_items : ∀ (items : List Json), EveryNumberOf Number.Written items → ∀ before : List Token,
    ∃ s, ([','].intercalate ((renderItems items).map String.toList)).foldlM step ⟨before, .gap⟩ = some s ∧
      Scanned s ((tokensOf items).reverse ++ before)
  | [], _, before => ⟨_, rfl, scanned_gap _⟩
  | [x], h, before => by
      simpa [renderItems, tokensOf] using scan_render x h.1 before
  | x :: y :: xs, h, before => by
      obtain ⟨s, hs, scanned⟩ := scan_render x h.1 before
      obtain ⟨s', hs', scanned'⟩ := scan_items (y :: xs) h.2 (.comma :: ((tokens x).reverse ++ before))
      refine ⟨s', ?_, by simpa [tokensOf] using scanned'⟩
      have rest := (scan_comma hs scanned).trans hs'
      simpa [renderItems, List.intercalate_cons_cons] using rest

theorem scan_members : ∀ (members : List (String × Json)), EveryNumberIn Number.Written members →
    ∀ before : List Token,
    ∃ s, ([','].intercalate ((renderMembers members).map String.toList)).foldlM step ⟨before, .gap⟩ =
        some s ∧ Scanned s ((tokensIn members).reverse ++ before)
  | [], _, before => ⟨_, rfl, scanned_gap _⟩
  | [(key, x)], h, before => by
      obtain ⟨s, hs, scanned⟩ := scan_render x h.1 (.colon :: .string (some key) :: before)
      refine ⟨s, ?_, by simpa [tokensIn] using scanned⟩
      simpa [renderMembers] using scan_member hs
  | (key, x) :: y :: xs, h, before => by
      obtain ⟨s, hs, scanned⟩ := scan_render x h.1 (.colon :: .string (some key) :: before)
      obtain ⟨s', hs', scanned'⟩ := scan_members (y :: xs) h.2
        (.comma :: ((tokens x).reverse ++ .colon :: .string (some key) :: before))
      refine ⟨s', ?_, by simpa [tokensIn] using scanned'⟩
      have rest := (scan_comma (scan_member hs) scanned).trans hs'
      simpa [renderMembers, List.intercalate_cons_cons] using rest

end

theorem scan?_render {j : Json} (h : EveryNumber Number.Written j) :
    scan? (render j).toList = some (tokens j) := by
  obtain ⟨s, hs, scanned⟩ := scan_render j h []
  rw [scan?, hs, Option.bind_eq_bind, Option.bind_some, scanned.close]
  simp

end Token

/-! ### Trees -/

namespace Raw

mutual

/-- The tree of a value. -/
def ofJson : Json → Raw
  | .null => .null
  | .bool value => .bool value
  | .number n => .number n.reread
  | .string text => .string (some text)
  | .array items => .array (ofItems items)
  | .object members => .object (ofMembers members)

def ofItems : List Json → List Raw
  | [] => []
  | x :: xs => ofJson x :: ofItems xs

def ofMembers : List (String × Json) → List (Option String × Raw)
  | [] => []
  | (key, x) :: xs => (some key, ofJson x) :: ofMembers xs

end

/-- No value begins with what closes an array. -/
theorem parse_firstItem (items : List Json) (more : List Token) (stack : List Frame) (h : items ≠ []) :
    (tokensOf items ++ more).foldlM step (.firstItem stack) =
      (tokensOf items ++ more).foldlM step (.value stack) := by
  match items with
  | [] => exact absurd rfl h
  | [x] | x :: y :: xs => cases x <;> simp [tokensOf, tokens, step]

theorem parse_firstKey (members : List (String × Json)) (more : List Token) (stack : List Frame)
    (h : members ≠ []) : (tokensIn members ++ more).foldlM step (.firstKey stack) =
      (tokensIn members ++ more).foldlM step (.key stack) := by
  match members with
  | [] => exact absurd rfl h
  | [(key, x)] | (key, x) :: y :: xs => simp [tokensIn, step]

mutual

/-- The tree of the tokens of a value. -/
theorem parse_tokens : ∀ (j : Json) (stack : List Frame),
    (tokens j).foldlM step (.value stack) = deliver (ofJson j) stack
  | .null, stack | .bool _, stack | .number _, stack | .string _, stack => by
      simp [tokens, step, begin, ofJson]
  | .array items, stack => by
      have opened : step (.value stack) .openBracket = some (.firstItem (.array [] :: stack)) := rfl
      rw [tokens, List.foldlM_cons, opened, Option.bind_eq_bind, Option.bind_some]
      by_cases none : items = []
      · simp [none, tokensOf, step, close, ofJson, ofItems]
      · rw [parse_firstItem items _ _ none, List.foldlM_append, parse_items items [] stack none]
        simp [step, close, ofJson]
  | .object members, stack => by
      have opened : step (.value stack) .openBrace = some (.firstKey (.object [] :: stack)) := rfl
      rw [tokens, List.foldlM_cons, opened, Option.bind_eq_bind, Option.bind_some]
      by_cases none : members = []
      · simp [none, tokensIn, step, close, ofJson, ofMembers]
      · rw [parse_firstKey members _ _ none, List.foldlM_append, parse_members members [] stack none]
        simp [step, close, ofJson]

theorem parse_items : ∀ (items : List Json) (done : List Raw) (stack : List Frame), items ≠ [] →
    (tokensOf items).foldlM step (.value (.array done :: stack)) =
      some (.after (.array ((ofItems items).reverse ++ done) :: stack))
  | [], _, _, h => absurd rfl h
  | [x], done, stack, _ => by
      have first := parse_tokens x (.array done :: stack)
      simpa [tokensOf, ofItems, deliver] using first
  | x :: y :: xs, done, stack, _ => by
      have first := parse_tokens x (.array done :: stack)
      have rest := parse_items (y :: xs) (ofJson x :: done) stack (List.cons_ne_nil y xs)
      simp [tokensOf, first, deliver, step, rest, ofItems]

theorem parse_members : ∀ (members : List (String × Json)) (done : List (Option String × Raw))
    (stack : List Frame), members ≠ [] →
    (tokensIn members).foldlM step (.key (.object done :: stack)) =
      some (.after (.object ((ofMembers members).reverse ++ done) :: stack))
  | [], _, _, h => absurd rfl h
  | [(key, x)], done, stack, _ => by
      have first := parse_tokens x (.member done (some key) :: stack)
      simpa [tokensIn, ofMembers, step, deliver] using first
  | (key, x) :: y :: xs, done, stack, _ => by
      have first := parse_tokens x (.member done (some key) :: stack)
      have rest := parse_members (y :: xs) ((some key, ofJson x) :: done) stack (List.cons_ne_nil y xs)
      simp [tokensIn, first, deliver, step, rest, ofMembers]

end

/-- The tree of the text of a value. -/
theorem read?_render {j : Json} (h : EveryNumber Number.Written j) : read? (render j) = some (ofJson j) := by
  have parsed : (tokens j).foldlM step (.value []) = some (.complete (ofJson j)) := parse_tokens j []
  rw [read?, Token.scan?_render h, Option.bind_eq_bind, Option.bind_some, ofTokens?, parsed]
  rfl

/-! ### Values of trees -/

mutual

theorem toJson?_ofJson : ∀ (j : Json) (n : Nat), EveryNumber Number.Legible j → Ascending j →
    depth j ≤ n → toJson? n (ofJson j) = some j
  | .null, _, _, _, _ | .bool _, _, _, _, _ | .string _, _, _, _, _ => rfl
  | .number _, _, h, _, _ => by
      rw [ofJson, toJson?, h.2]
      rfl
  | .array items, n + 1, h, hs, hd => by
      rw [ofJson, toJson?, itemsToJson?_ofItems items n h hs (Nat.le_of_succ_le_succ hd)]
      rfl
  | .object members, n + 1, h, hs, hd => by
      rw [ofJson, toJson?, membersToJson?_ofMembers members n h hs.2 (Nat.le_of_succ_le_succ hd)]
      exact congrArg (fun d : Members => some (Json.ofMembers d)) (Dict.ofList_entries ⟨members, hs.1⟩)

theorem itemsToJson?_ofItems : ∀ (items : List Json) (n : Nat), EveryNumberOf Number.Legible items →
    AscendingOf items → depthOf items ≤ n → itemsToJson? n (ofItems items) = some items
  | [], _, _, _, _ => rfl
  | x :: xs, n, h, hs, hd => by
      have first := toJson?_ofJson x n h.1 hs.1 (Nat.le_trans (Nat.le_max_left _ _) hd)
      have rest := itemsToJson?_ofItems xs n h.2 hs.2 (Nat.le_trans (Nat.le_max_right _ _) hd)
      simp [ofItems, itemsToJson?, first, rest]

theorem membersToJson?_ofMembers : ∀ (members : List (String × Json)) (n : Nat),
    EveryNumberIn Number.Legible members → AscendingIn members → depthIn members ≤ n →
    membersToJson? n (ofMembers members) = some members
  | [], _, _, _, _ => rfl
  | (key, x) :: xs, n, h, hs, hd => by
      have first := toJson?_ofJson x n h.1 hs.1 (Nat.le_trans (Nat.le_max_left _ _) hd)
      have rest := membersToJson?_ofMembers xs n h.2 hs.2 (Nat.le_trans (Nat.le_max_right _ _) hd)
      simp [ofMembers, membersToJson?, first, rest]

end

end Raw

mutual

theorem EveryNumber.mono {P Q : Number → Prop} (hpq : ∀ n, P n → Q n) :
    ∀ j : Json, EveryNumber P j → EveryNumber Q j
  | .null, _ | .bool _, _ | .string _, _ => trivial
  | .number n, h => hpq n h
  | .array items, h => EveryNumberOf.mono hpq items h
  | .object members, h => EveryNumberIn.mono hpq members h

theorem EveryNumberOf.mono {P Q : Number → Prop} (hpq : ∀ n, P n → Q n) :
    ∀ items : List Json, EveryNumberOf P items → EveryNumberOf Q items
  | [], _ => trivial
  | x :: xs, h => ⟨EveryNumber.mono hpq x h.1, EveryNumberOf.mono hpq xs h.2⟩

theorem EveryNumberIn.mono {P Q : Number → Prop} (hpq : ∀ n, P n → Q n) :
    ∀ members : List (String × Json), EveryNumberIn P members → EveryNumberIn Q members
  | [], _ => trivial
  | (_, x) :: xs, h => ⟨EveryNumber.mono hpq x h.1, EveryNumberIn.mono hpq xs h.2⟩

end

/-- A value whose numbers are legible and that is nested no deeper than a text may be is read back. -/
theorem read?_render {j : Json} (numbers : EveryNumber Number.Legible j) (ascending : Ascending j)
    (shallow : depth j ≤ Raw.depthLimit) : read? (render j) = some j := by
  rw [read?, Raw.read?_render (EveryNumber.mono (fun _ h => h.1) j numbers), Option.bind_some]
  exact Raw.toJson?_ofJson j _ numbers ascending shallow

/-- A list of texts is read back. -/
theorem read?_render_strings (texts : List String) :
    read? (ofList texts .string).render = some (ofList texts .string) := by
  have simple : ∀ texts : List String, EveryNumberOf Number.Legible (texts.map .string) ∧
      AscendingOf (texts.map .string) ∧ depthOf (texts.map .string) = 0 := by
    intro texts
    induction texts with
    | nil => exact ⟨trivial, trivial, rfl⟩
    | cons text texts ih => exact ⟨⟨trivial, ih.1⟩, ⟨trivial, ih.2.1⟩, by simp [depthOf, depth, ih.2.2]⟩
  obtain ⟨numbers, ascending, flat⟩ := simple texts
  refine read?_render numbers ascending ?_
  rw [ofList, depth, flat]
  decide

end ImageryJobs.Json
