import LendingPool.Proofs.Decimal.Digits
import LendingPool.Proofs.Json.Texts
import Mathlib.Data.List.TakeWhile
/-! Values as JSON, read back. A value of which everything can be read, and of which each number is
an integer in range, is what its text is read as.

Text is read in two steps, and each has its half of the argument. The text of a value comes apart
into the value's tokens, and those are put together as the value. -/

namespace LendingPool.Json

/-! ## Values and tokens -/

mutual

/-- Whether a value is all in its text. Of reals and of what cannot be read, it may not be. -/
def isSpelled : Json → Bool
  | unreadable | number (.real _) => false
  | number (.integer value) => decide (-2 ^ 63 ≤ value) && decide (value < 2 ^ 64)
  | array items => allSpelled items
  | object members => allMembersSpelled members
  | null | bool _ | string _ => true

def allSpelled : List Json → Bool
  | [] => true
  | item :: items => isSpelled item && allSpelled items

def allMembersSpelled : List (String × Json) → Bool
  | [] => true
  | (_, value) :: members => isSpelled value && allMembersSpelled members

end

mutual

def tokens : Json → List Token
  | null | unreadable => [.null]
  | bool value => [.bool value]
  | number value => [.number (some value)]
  | string text => [.text (some text)]
  | array [] => [.openArray, .closeArray]
  | array (item :: items) => .openArray :: (tokens item ++ (itemTokens items ++ [.closeArray]))
  | object [] => [.openObject, .closeObject]
  | object ((name, value) :: members) =>
      .openObject :: .text (some name) :: .colon ::
        (tokens value ++ (memberTokens members ++ [.closeObject]))

def itemTokens : List Json → List Token
  | [] => []
  | item :: items => .comma :: (tokens item ++ itemTokens items)

def memberTokens : List (String × Json) → List Token
  | [] => []
  | (name, value) :: members =>
      .comma :: .text (some name) :: .colon :: (tokens value ++ memberTokens members)

end

/-! ## Integers -/

namespace NumberText

theorem isMark_of_isDigit {c : Char} (digit : c.isDigit = true) : isMark c = false := by
  simp only [isMark, Bool.or_eq_false_iff, beq_eq_false_iff_ne]
  constructor <;> rintro rfl <;> cases digit

/-- Digits have neither a mark nor a point among them, and they begin with a zero only if that is
all of them. -/
theorem ofText?_digits (negative : Bool) (number : Nat) :
    ofText? ((if negative then ['-'] else []) ++ Digits.ofNat number) =
      some ⟨negative, Digits.ofNat number, none, none⟩ := by
  have digits : ∀ c ∈ Digits.ofNat number, c.isDigit = true :=
    List.all_eq_true.mp (Digits.all_ofNat number)
  have unmarked : ∀ c ∈ Digits.ofNat number, (!isMark c) = true := fun c member => by
    rw [isMark_of_isDigit (digits c member), Bool.not_false]
  have taken : (Digits.ofNat number).takeWhile (!isMark ·) = Digits.ofNat number :=
    List.takeWhile_eq_self_iff.mpr unmarked
  have dropped : (Digits.ofNat number).dropWhile (!isMark ·) = [] :=
    List.dropWhile_eq_nil_iff.mpr unmarked
  have pointless : '.' ∉ Digits.ofNat number := fun member => by cases digits '.' member
  have leading : (Digits.ofNat number).length = 1 ∨ (Digits.ofNat number).head? ≠ some '0' := by
    rcases Nat.eq_zero_or_pos number with rfl | positive
    · exact .inl rfl
    · exact .inr (Digits.head?_ofNat positive)
  have integral : (!(Digits.ofNat number).isEmpty && Digits.all (Digits.ofNat number) &&
      ((Digits.ofNat number).length = 1 || (Digits.ofNat number).head? != some '0')) = true := by
    simp [Digits.ofNat_ne_nil, Digits.all_ofNat, leading]
  cases negative with
  | true =>
      change ofText? ('-' :: Digits.ofNat number) = _
      rw [ofText?]
      simp only [taken, dropped, Digits.splitAt_of_not_mem pointless, integral]
      rfl
  | false =>
      have signless : ∀ text, Digits.ofNat number = '-' :: text → False := fun text same => by
        cases digits '-' (by rw [same]; exact List.mem_cons_self ..)
      change ofText? (Digits.ofNat number) = _
      rw [ofText?]
      · simp only [taken, dropped, Digits.splitAt_of_not_mem pointless, integral]
        rfl
      · exact signless

def ofInteger (value : Int) : NumberText :=
  ⟨decide (value < 0), Digits.ofNat value.natAbs, none, none⟩

theorem value?_ofInteger {value : Int} (spelled : (Json.number (.integer value)).isSpelled = true) :
    (ofInteger value).value? = some (.integer value) := by
  rw [isSpelled, Bool.and_eq_true, decide_eq_true_eq, decide_eq_true_eq] at spelled
  simp only [value?, ofInteger, Digits.value_ofNat]
  by_cases negative : value < 0
  · have low : value.natAbs ≤ 2 ^ 63 := by omega
    have nonzero : value.natAbs ≠ 0 := by omega
    have same : -(value.natAbs : Int) = value := by omega
    simpa [negative, low, nonzero] using same
  · have small : value.natAbs < 2 ^ 64 := by omega
    have same : (value.natAbs : Int) = value := by omega
    simpa [negative, small] using same

end NumberText

theorem numberText_integer (value : Int) :
    numberText (.integer value) =
      (if decide (value < 0) then ['-'] else []) ++ Digits.ofNat value.natAbs := by
  rw [numberText]
  cases value with
  | ofNat number => exact Digits.toList_toString number
  | negSucc number =>
      have signed : toString (Int.negSucc number) = "-" ++ toString (number + 1) := rfl
      rw [signed, String.toList_append, Digits.toList_toString,
        if_pos (decide_eq_true (Int.negSucc_lt_zero number))]
      rfl

theorem begins_of_mem_numberText {value : Int} {c : Char}
    (member : c ∈ numberText (.integer value)) : (c.isDigit || c == '-') = true := by
  rw [numberText_integer, List.mem_append] at member
  rcases member with sign | digit
  · split at sign
    · rw [List.mem_singleton.mp sign]
      rfl
    · cases sign
  · rw [List.all_eq_true.mp (Digits.all_ofNat _) c digit]
    rfl

theorem ofText?_numberText (value : Int) :
    NumberText.ofText? (numberText (.integer value)) = some (.ofInteger value) := by
  rw [numberText_integer, NumberText.ofText?_digits, NumberText.ofInteger]

/-! ## Text to tokens -/

namespace Lexer

/-- A lexer with these tokens, of which only a number or a word may still go on. -/
structure Holds (lexer : Lexer) (tokens : List Token) : Prop where
  finish : lexer.finish? = some tokens
  step : ∀ c, isNumeric c = false → c.isLower = false → lexer.step c = begin tokens c

theorem holds_between (tokens : List Token) : Holds ⟨.between, tokens⟩ tokens :=
  ⟨rfl, fun _ _ _ => rfl⟩

theorem holds_word {letters : List Char} {token : Token} (tokens : List Token)
    (spelled : wordToken? letters.reverse = some token) :
    Holds ⟨.word letters, tokens⟩ (token :: tokens) where
  finish := by simp [finish?, spelled]
  step c _ lower := by simp [step, lower, finish?, spelled]

theorem holds_number {characters : List Char} {text : NumberText} (tokens : List Token)
    (spelled : NumberText.ofText? characters.reverse = some text) :
    Holds ⟨.number characters, tokens⟩ (.number text.value? :: tokens) where
  finish := by simp [finish?, spelled]
  step c numeric _ := by simp [step, numeric, finish?, spelled]

end Lexer

def Lexes (text : List Char) (tokens : List Token) : Prop :=
  ∀ before, ∃ lexer, text.foldlM Lexer.step ⟨.between, before⟩ = some lexer ∧
    lexer.Holds (tokens.reverse ++ before)

def LexesBehind (text : List Char) (tokens : List Token) : Prop :=
  ∀ before lexer, Lexer.Holds lexer before →
    ∃ later, text.foldlM Lexer.step lexer = some later ∧ later.Holds (tokens.reverse ++ before)

theorem lexesBehind_nil : LexesBehind [] [] :=
  fun _ lexer holds => ⟨lexer, rfl, holds⟩

theorem LexesBehind.lexes {text : List Char} {tokens : List Token}
    (lexes : LexesBehind text tokens) : Lexes text tokens :=
  fun before => lexes before _ (Lexer.holds_between before)

theorem Lexes.append {first second : List Char} {tokens others : List Token}
    (lexes : Lexes first tokens) (behind : LexesBehind second others) :
    Lexes (first ++ second) (tokens ++ others) := by
  intro before
  rcases lexes before with ⟨lexer, runs, holds⟩
  rcases behind _ lexer holds with ⟨later, continues, holdsAll⟩
  refine ⟨later, ?_, by simpa using holdsAll⟩
  rw [List.foldlM_append, runs]
  exact continues

theorem LexesBehind.append {first second : List Char} {tokens others : List Token}
    (lexes : LexesBehind first tokens) (behind : LexesBehind second others) :
    LexesBehind (first ++ second) (tokens ++ others) := by
  intro before lexer holds
  rcases lexes before lexer holds with ⟨between, runs, holdsFirst⟩
  rcases behind _ between holdsFirst with ⟨later, continues, holdsAll⟩
  refine ⟨later, ?_, by simpa using holdsAll⟩
  rw [List.foldlM_append, runs]
  exact continues

theorem Lexes.behind_mark {text : List Char} {tokens : List Token} (lexes : Lexes text tokens)
    (mark : Char) (token : Token) (numeric : Lexer.isNumeric mark = false)
    (lower : mark.isLower = false)
    (marks : ∀ before, Lexer.begin before mark = some ⟨.between, token :: before⟩) :
    LexesBehind (mark :: text) (token :: tokens) := by
  intro before lexer holds
  rcases lexes (token :: before) with ⟨later, runs, holdsAll⟩
  refine ⟨later, ?_, by simpa using holdsAll⟩
  rw [List.foldlM_cons, holds.step mark numeric lower, marks]
  exact runs

theorem lexes_quoted (text : String) : Lexes (quoted text) [.text (some text)] :=
  fun before => ⟨_, foldlM_quoted before text, Lexer.holds_between _⟩

theorem foldlM_number (tokens : List Token) (characters : List Char) {text : List Char}
    (numeric : ∀ c ∈ text, Lexer.isNumeric c = true) :
    text.foldlM Lexer.step ⟨.number characters, tokens⟩ =
      some ⟨.number (text.reverse ++ characters), tokens⟩ := by
  induction text generalizing characters with
  | nil => rfl
  | cons c text induction =>
      have goesOn : Lexer.step ⟨.number characters, tokens⟩ c =
          some ⟨.number (c :: characters), tokens⟩ := by
        simp [Lexer.step, numeric c (List.mem_cons_self ..)]
      rw [List.foldlM_cons, goesOn]
      refine (induction (c :: characters) fun c member =>
        numeric c (List.mem_cons_of_mem _ member)).trans ?_
      rw [List.reverse_cons, List.append_assoc]
      rfl

theorem begin_number (tokens : List Token) {c : Char} (begins : (c.isDigit || c == '-') = true) :
    Lexer.begin tokens c = some ⟨.number [c], tokens⟩ := by
  have blank : Lexer.isBlank c = false := by
    simp only [Lexer.isBlank, Bool.or_eq_false_iff, beq_eq_false_iff_ne]
    refine ⟨⟨⟨?_, ?_⟩, ?_⟩, ?_⟩ <;> rintro rfl <;> cases begins
  have quote : (c == '"') = false := by
    rw [beq_eq_false_iff_ne]
    rintro rfl
    cases begins
  simp only [Lexer.begin, blank, quote, begins, if_true, Bool.false_eq_true, if_false]

theorem lexes_of_ofText? {text : List Char} {number : NumberText}
    (begins : ∀ c ∈ text, (c.isDigit || c == '-') = true)
    (reads : NumberText.ofText? text = some number) : Lexes text [.number number.value?] := by
  intro before
  cases text with
  | nil => cases (show none = some number from reads)
  | cons first rest =>
      have opens : Lexer.step ⟨.between, before⟩ first = some ⟨.number [first], before⟩ :=
        begin_number before (begins first (List.mem_cons_self ..))
      have numeric : ∀ c ∈ rest, Lexer.isNumeric c = true := fun c member => by
        rcases Bool.or_eq_true_iff.mp (begins c (List.mem_cons_of_mem first member)) with
          one | one <;> simp [Lexer.isNumeric, one]
      refine ⟨⟨.number (rest.reverse ++ [first]), before⟩, ?_, Lexer.holds_number before ?_⟩
      · rw [List.foldlM_cons, opens]
        exact foldlM_number before [first] numeric
      · rw [List.reverse_append, List.reverse_reverse]
        exact reads

theorem lexes_number {value : Int} (spelled : (number (.integer value)).isSpelled = true) :
    Lexes (numberText (.integer value)) [.number (some (.integer value))] := by
  have lexes := lexes_of_ofText? (fun _ => begins_of_mem_numberText) (ofText?_numberText value)
  rwa [NumberText.value?_ofInteger spelled] at lexes

theorem lexesBehind_mark {mark : Char} {token : Token} (numeric : Lexer.isNumeric mark = false)
    (lower : mark.isLower = false)
    (marks : ∀ before, Lexer.begin before mark = some ⟨.between, token :: before⟩) :
    LexesBehind [mark] [token] :=
  lexesBehind_nil.lexes.behind_mark mark token numeric lower marks

theorem Lexes.named {text : List Char} {tokens : List Token} (lexes : Lexes text tokens)
    (name : String) :
    Lexes (quoted name ++ ':' :: text) (.text (some name) :: .colon :: tokens) :=
  (lexes_quoted name).append (lexes.behind_mark ':' .colon rfl rfl fun _ => rfl)

mutual

theorem lexes_render : ∀ value : Json, value.isSpelled = true → Lexes (render value) value.tokens
  | .null, _ => fun before => ⟨⟨.word _, before⟩, rfl, Lexer.holds_word before rfl⟩
  | .bool true, _ => fun before => ⟨⟨.word _, before⟩, rfl, Lexer.holds_word before rfl⟩
  | .bool false, _ => fun before => ⟨⟨.word _, before⟩, rfl, Lexer.holds_word before rfl⟩
  | .number (.integer value), spelled => lexes_number spelled
  | .string text, _ => lexes_quoted text
  | .array [], _ => fun before => ⟨_, rfl, Lexer.holds_between _⟩
  | .array (item :: items), spelled => by
      rw [isSpelled, allSpelled, Bool.and_eq_true] at spelled
      have closes : LexesBehind [']'] [.closeArray] := lexesBehind_mark rfl rfl fun _ => rfl
      have inside := (lexes_render item spelled.1).append
        ((lexesBehind_renderItems items spelled.2).append closes)
      have all := (inside.behind_mark '[' .openArray rfl rfl fun _ => rfl).lexes
      simpa only [render, tokens, List.cons_append, List.append_assoc] using all
  | .object [], _ => fun before => ⟨_, rfl, Lexer.holds_between _⟩
  | .object ((name, value) :: members), spelled => by
      rw [isSpelled, allMembersSpelled, Bool.and_eq_true] at spelled
      have closes : LexesBehind ['}'] [.closeObject] := lexesBehind_mark rfl rfl fun _ => rfl
      have inside := ((lexes_render value spelled.1).named name).append
        ((lexesBehind_renderMembers members spelled.2).append closes)
      have all := (inside.behind_mark '{' .openObject rfl rfl fun _ => rfl).lexes
      simpa only [render, tokens, List.cons_append, List.append_assoc] using all

theorem lexesBehind_renderItems : ∀ items : List Json, allSpelled items = true →
    LexesBehind (renderItems items) (itemTokens items)
  | [], _ => lexesBehind_nil
  | item :: items, spelled => by
      rw [allSpelled, Bool.and_eq_true] at spelled
      have first := lexes_render item spelled.1
      have behind := first.behind_mark ',' .comma rfl rfl fun _ => rfl
      exact behind.append (lexesBehind_renderItems items spelled.2)

theorem lexesBehind_renderMembers : ∀ members : List (String × Json),
    allMembersSpelled members = true → LexesBehind (renderMembers members) (memberTokens members)
  | [], _ => lexesBehind_nil
  | (name, value) :: members, spelled => by
      rw [allMembersSpelled, Bool.and_eq_true] at spelled
      have first := (lexes_render value spelled.1).named name
      have behind := first.behind_mark ',' .comma rfl rfl fun _ => rfl
      have all := behind.append (lexesBehind_renderMembers members spelled.2)
      simpa only [renderMembers, memberTokens, List.cons_append, List.append_assoc] using all

end

theorem tokens?_render {value : Json} (spelled : value.isSpelled = true) :
    tokens? (render value) = some value.tokens := by
  rcases lexes_render value spelled [] with ⟨lexer, runs, holds⟩
  rw [tokens?, Lexer.start, runs]
  simp [holds.finish]

/-! ## Tokens to values -/

namespace Reader

/-- No value begins with the end of an array, so its first item is read as any other is. -/
theorem foldlM_firstItem (frames : List Frame) (value : Json) :
    value.tokens.foldlM step ⟨.firstItem, .array [] :: frames⟩ =
      value.tokens.foldlM step ⟨.value, .array [] :: frames⟩ := by
  cases value with
  | null | unreadable | bool | number | string => rfl
  | array items => cases items <;> rfl
  | object members => rcases members with _ | ⟨⟨_, _⟩, _⟩ <;> rfl

def held (member : String × Json) : Option String × Json :=
  (some member.1, member.2)

theorem mapM_held {release : Option String × Json → Option (String × Json)}
    (releases : ∀ member, release (held member) = some member) (members : List (String × Json)) :
    (members.map held).mapM release = some members := by
  induction members with
  | nil => rfl
  | cons member members induction =>
      rw [List.map_cons, List.mapM_cons, releases, induction]
      rfl

theorem closeObject_held (members : List (String × Json)) :
    closeObject (members.map held).reverse = .object members := by
  rw [closeObject, List.reverse_reverse, mapM_held fun _ => rfl]

theorem foldlM_member {value : Json}
    (reads : ∀ frames, value.tokens.foldlM step ⟨.value, frames⟩ = give value frames)
    (expected : Expected) (before : List (Option String × Json)) (frames : List Frame)
    (name : String)
    (names : step ⟨expected, .object before :: frames⟩ (.text (some name)) =
      some ⟨.colon, .named before (some name) :: frames⟩)
    (rest : List Token) :
    (.text (some name) :: .colon :: (value.tokens ++ rest)).foldlM step
        ⟨expected, .object before :: frames⟩ =
      rest.foldlM step ⟨.more, .object (held (name, value) :: before) :: frames⟩ := by
  have colon : step ⟨.colon, .named before (some name) :: frames⟩ .colon =
      some ⟨.value, .named before (some name) :: frames⟩ := rfl
  have given : value.tokens.foldlM step ⟨.value, .named before (some name) :: frames⟩ =
      some ⟨.more, .object (held (name, value) :: before) :: frames⟩ := reads _
  simp only [List.foldlM_cons, List.foldlM_append, names, colon, given, Option.bind_eq_bind,
    Option.bind_some]

mutual

theorem foldlM_tokens : ∀ (value : Json) (frames : List Frame), value.isSpelled = true →
    value.tokens.foldlM step ⟨.value, frames⟩ = give value frames
  | .null, frames, _ | .bool _, frames, _ | .number _, frames, _ | .string _, frames, _ =>
      bind_pure (give _ frames)
  | .array [], frames, _ => by
      have closes :
          step ⟨.firstItem, .array [] :: frames⟩ .closeArray = give (.array []) frames := by
        simp [step, close?, value?]
      exact (bind_pure _).trans closes
  | .object [], frames, _ => by
      have closes : step ⟨.firstName, .object [] :: frames⟩ .closeObject =
          give (.object []) frames := by
        simp [step, close?, name?, closeObject]
      exact (bind_pure _).trans closes
  | .array (item :: items), frames, spelled => by
      rw [isSpelled, allSpelled, Bool.and_eq_true] at spelled
      have opens : step ⟨.value, frames⟩ .openArray = some ⟨.firstItem, .array [] :: frames⟩ := rfl
      have first : item.tokens.foldlM step ⟨.firstItem, .array [] :: frames⟩ =
          some ⟨.more, .array [item] :: frames⟩ :=
        (foldlM_firstItem frames item).trans (foldlM_tokens item (.array [] :: frames) spelled.1)
      have others := foldlM_itemTokens items [item] frames spelled.2
      have closes : step ⟨.more, .array (items.reverse ++ [item]) :: frames⟩ .closeArray =
          give (.array (item :: items)) frames := by
        have all : (items.reverse ++ [item]).reverse = item :: items := by simp
        rw [← all]
        rfl
      simp only [tokens, List.foldlM_cons, List.foldlM_append, List.foldlM_nil, opens, first,
        others, closes, Option.bind_eq_bind, Option.bind_some, Option.pure_def,
        Option.bind_fun_some]
  | .object ((name, value) :: members), frames, spelled => by
      rw [isSpelled, allMembersSpelled, Bool.and_eq_true] at spelled
      have opens :
          step ⟨.value, frames⟩ .openObject = some ⟨.firstName, .object [] :: frames⟩ := rfl
      have first := foldlM_member (fun frames => foldlM_tokens value frames spelled.1) .firstName []
        frames name rfl
      have others := foldlM_memberTokens members [held (name, value)] frames spelled.2
      have closes : step ⟨.more, .object ((members.map held).reverse ++ [held (name, value)]) ::
          frames⟩ .closeObject = give (.object ((name, value) :: members)) frames := by
        rw [← closeObject_held, List.map_cons, List.reverse_cons]
        rfl
      rw [tokens, List.foldlM_cons, opens, Option.bind_eq_bind, Option.bind_some, first,
        List.foldlM_append, others]
      exact (bind_pure _).trans closes

theorem foldlM_itemTokens : ∀ (items before : List Json) (frames : List Frame),
    allSpelled items = true →
    (itemTokens items).foldlM step ⟨.more, .array before :: frames⟩ =
      some ⟨.more, .array (items.reverse ++ before) :: frames⟩
  | [], _, _, _ => rfl
  | item :: items, before, frames, spelled => by
      rw [allSpelled, Bool.and_eq_true] at spelled
      have comma : step ⟨.more, .array before :: frames⟩ .comma =
          some ⟨.value, .array before :: frames⟩ := rfl
      have first : item.tokens.foldlM step ⟨.value, .array before :: frames⟩ =
          some ⟨.more, .array (item :: before) :: frames⟩ :=
        foldlM_tokens item (.array before :: frames) spelled.1
      have others := foldlM_itemTokens items (item :: before) frames spelled.2
      simp only [itemTokens, List.foldlM_cons, List.foldlM_append, comma, first, others,
        Option.bind_eq_bind, Option.bind_some, List.reverse_cons, List.append_assoc,
        List.singleton_append]

theorem foldlM_memberTokens : ∀ (members : List (String × Json))
    (before : List (Option String × Json)) (frames : List Frame),
    allMembersSpelled members = true →
    (memberTokens members).foldlM step ⟨.more, .object before :: frames⟩ =
      some ⟨.more, .object ((members.map held).reverse ++ before) :: frames⟩
  | [], _, _, _ => rfl
  | (name, value) :: members, before, frames, spelled => by
      rw [allMembersSpelled, Bool.and_eq_true] at spelled
      have comma : step ⟨.more, .object before :: frames⟩ .comma =
          some ⟨.name, .object before :: frames⟩ := rfl
      have first := foldlM_member (fun frames => foldlM_tokens value frames spelled.1) .name before
        frames name rfl
      have others := foldlM_memberTokens members (held (name, value) :: before) frames spelled.2
      rw [memberTokens, List.foldlM_cons, comma]
      simp only [first, others, Option.bind_eq_bind, Option.bind_some, List.map_cons,
        List.reverse_cons, List.append_assoc, List.singleton_append]

end

end Reader

theorem ofTokens?_tokens {value : Json} (spelled : value.isSpelled = true) :
    ofTokens? value.tokens = some value := by
  rw [ofTokens?, Reader.start, Reader.foldlM_tokens value [] spelled]
  rfl

/-! ## Text to values -/

theorem parse?_toText {value : Json} (spelled : value.isSpelled = true) :
    parse? value.toText = some value := by
  rw [parse?, toText, String.toList_ofList, tokens?_render spelled]
  exact ofTokens?_tokens spelled

/-- What is printed is read back, if it is all in the text and not too deep. -/
theorem parseReadable?_toText {value : Json} (spelled : value.isSpelled = true)
    (readable : value.isReadable depthLimit = true) : parseReadable? value.toText = some value := by
  rw [parseReadable?, parse?_toText spelled]
  simp [readable]

end LendingPool.Json
