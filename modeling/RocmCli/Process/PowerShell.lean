import Mathlib

namespace RocmCli
namespace Process

/-!
# Quoting for PowerShell

PowerShell opens and closes a single-quoted string at any of five characters,
and two of them in a row inside it stand for one.  The quoting here doubles one
of the five.  A text is read back as it was meant exactly when none of the
other four is in it: every quote character inside a string costs two characters
of the text, so a text that was written with one too few cannot be read as
meant.
-/

abbrev ScriptText := List Char

/-- Double the apostrophe. -/
def psSingleQuoteEscape (value : ScriptText) : ScriptText :=
  value.flatMap fun character => if character = '\'' then ['\'', '\''] else [character]

def powershellQuote (value : ScriptText) : ScriptText :=
  '\'' :: (psSingleQuoteEscape value ++ ['\''])

/-! ## How a script is read -/

/-- The quotation marks, single and low, that are no apostrophe. -/
def isCurlyQuote (character : Char) : Bool :=
  character == '\u2018' || character == '\u2019' || character == '\u201a' || character == '\u201b'

def isSingleQuote (character : Char) : Bool := character == '\'' || isCurlyQuote character

inductive Token where
  | word (text : ScriptText)
  | symbol (character : Char)
  | string (value : ScriptText)
  /-- The end of a statement. -/
  | separator
  deriving DecidableEq, Repr

/-- Where the reading stands.  Behind a quote character inside a string, the
next character decides whether the string has ended. -/
inductive Mode where
  | outside (word : ScriptText)
  | inside (value : ScriptText)
  | quoteSeen (value : ScriptText)
  /-- A character that is read by other rules than these. -/
  | unread
  deriving DecidableEq, Repr

structure ScriptState where
  tokens : List Token
  mode : Mode
  deriving DecidableEq, Repr

namespace ScriptState

def start : ScriptState := ⟨[], .outside []⟩

/-- The token of the word in progress. -/
def wordToken (word : ScriptText) : List Token := if word.isEmpty then [] else [.word word]

/-- Comments, expandable strings, escapes, blocks and pipes are not read. -/
def isUnread (character : Char) : Bool :=
  character ∈ ['"', '\u201c', '\u201d', '\u201e', '#', '\x60', '\x7b', '\x7d', '|', '<', '%', '?',
    '\r', '\x0c', '\x0b']

/-- A character outside strings, with the word in progress. -/
def readOutside (tokens : List Token) (word : ScriptText) (character : Char) : ScriptState :=
  if isSingleQuote character then
    if word.isEmpty then ⟨tokens, .inside []⟩ else ⟨tokens, .unread⟩
  else if isUnread character then ⟨tokens, .unread⟩
  else if character = ' ' ∨ character = '\t' then ⟨tokens ++ wordToken word, .outside []⟩
  else if character = '\n' ∨ character = ';' then
    ⟨tokens ++ wordToken word ++ [Token.separator], .outside []⟩
  else if character ∈ ['(', ')', ','] then
    ⟨tokens ++ wordToken word ++ [Token.symbol character], .outside []⟩
  else ⟨tokens, .outside (word ++ [character])⟩

def readChar (state : ScriptState) (character : Char) : ScriptState :=
  match state.mode with
  | .outside word => readOutside state.tokens word character
  | .inside value =>
      if isSingleQuote character then ⟨state.tokens, .quoteSeen value⟩
      else ⟨state.tokens, .inside (value ++ [character])⟩
  | .quoteSeen value =>
      if isSingleQuote character then ⟨state.tokens, .inside (value ++ [character])⟩
      else readOutside (state.tokens ++ [Token.string value]) [] character
  | .unread => state

/-- The tokens at the end of the text, unless a string is open there. -/
def finish (state : ScriptState) : Option (List Token) :=
  match state.mode with
  | .outside word => some (state.tokens ++ wordToken word)
  | .quoteSeen value => some (state.tokens ++ [Token.string value])
  | .inside _ | .unread => none

end ScriptState

open ScriptState

def tokensOf (text : ScriptText) : Option (List Token) := (text.foldl readChar start).finish

/-- The tokens between the ends of statements. -/
def splitStatements : List Token -> List Token -> List (List Token)
  | statement, [] => if statement.isEmpty then [] else [statement]
  | statement, token :: rest =>
      if token = .separator then
        if statement.isEmpty then splitStatements [] rest
        else statement :: splitStatements [] rest
      else splitStatements (statement ++ [token]) rest

/-- The statements of a script, each as its tokens. -/
def statementsOf (text : ScriptText) : Option (List (List Token)) :=
  (tokensOf text).map (splitStatements [])

/-! ## Reading on from a state -/

theorem readOutside_tokens (front tokens : List Token) (word : ScriptText) (character : Char) :
    readOutside (front ++ tokens) word character =
      ⟨front ++ (readOutside tokens word character).tokens,
        (readOutside tokens word character).mode⟩ := by
  unfold readOutside
  repeat' split
  all_goals simp

/-- What was read before does not matter. -/
theorem foldl_readChar_tokens (text : ScriptText) (front tokens : List Token) (mode : Mode) :
    text.foldl readChar ⟨front ++ tokens, mode⟩ =
      ⟨front ++ (text.foldl readChar ⟨tokens, mode⟩).tokens, (text.foldl readChar ⟨tokens, mode⟩).mode⟩ := by
  induction text generalizing tokens mode with
  | nil => rfl
  | cons character text ih =>
      rw [List.foldl_cons, List.foldl_cons]
      have step : readChar ⟨front ++ tokens, mode⟩ character =
          ⟨front ++ (readChar ⟨tokens, mode⟩ character).tokens, (readChar ⟨tokens, mode⟩ character).mode⟩ := by
        cases mode with
        | outside word => exact readOutside_tokens front tokens word character
        | inside value =>
            by_cases quote : isSingleQuote character = true
            · simp [readChar, quote]
            · simp [readChar, quote]
        | quoteSeen value =>
            by_cases quote : isSingleQuote character = true
            · simp [readChar, quote]
            · have regroup := readOutside_tokens front (tokens ++ [Token.string value]) [] character
              rw [← List.append_assoc] at regroup
              simpa [readChar, quote] using regroup
        | unread => rfl
      rw [step]
      exact ih _ _

/-- A value without a curly quote is read back, and its string is over unless a
quote character follows. -/
theorem foldl_readChar_escape {value : ScriptText}
    (plain : forall character, character ∈ value -> isCurlyQuote character = false)
    (tokens : List Token) (before : ScriptText) :
    (psSingleQuoteEscape value).foldl readChar ⟨tokens, .inside before⟩ =
      ⟨tokens, .inside (before ++ value)⟩ := by
  induction value generalizing before with
  | nil => simp [psSingleQuoteEscape]
  | cons character value ih =>
      have later := ih fun other member => plain other (List.mem_cons_of_mem _ member)
      have first := plain character List.mem_cons_self
      have whole : psSingleQuoteEscape (character :: value) =
          (if character = '\'' then ['\'', '\''] else [character]) ++ psSingleQuoteEscape value := rfl
      rw [whole, List.foldl_append]
      by_cases apostrophe : character = '\''
      · have step : ['\'', '\''].foldl readChar ⟨tokens, .inside before⟩ =
            ⟨tokens, .inside (before ++ ['\''])⟩ := rfl
        rw [if_pos apostrophe, step, later, apostrophe, List.append_assoc, List.singleton_append]
      · have quote : isSingleQuote character = false := by
          unfold isSingleQuote
          rw [first, beq_eq_false_iff_ne.mpr apostrophe]
          rfl
        have step : [character].foldl readChar ⟨tokens, .inside before⟩ =
            ⟨tokens, .inside (before ++ [character])⟩ := by
          simp [readChar, quote]
        rw [if_neg apostrophe, step, later, List.append_assoc, List.singleton_append]

theorem foldl_readChar_quote {value : ScriptText}
    (plain : forall character, character ∈ value -> isCurlyQuote character = false)
    (tokens : List Token) :
    (powershellQuote value).foldl readChar ⟨tokens, .outside []⟩ = ⟨tokens, .quoteSeen value⟩ := by
  have opening : readChar ⟨tokens, .outside []⟩ '\'' = ⟨tokens, .inside []⟩ := rfl
  have closing : readChar ⟨tokens, .inside value⟩ '\'' = ⟨tokens, .quoteSeen value⟩ := rfl
  unfold powershellQuote
  rw [List.foldl_cons, opening, List.foldl_append, foldl_readChar_escape plain, List.nil_append,
    List.foldl_cons, List.foldl_nil, closing]

/-! ## What the quote characters of a text add up to -/

def quoteCount (text : ScriptText) : Nat := text.countP isSingleQuote

/-- The quote characters that a token was read from. -/
def Token.quotes : Token -> Nat
  | .string value => 2 + 2 * quoteCount value
  | .word _ | .symbol _ | .separator => 0

def quotesOf (tokens : List Token) : Nat := (tokens.map Token.quotes).sum

def Mode.quotes : Mode -> Nat
  | .outside _ | .unread => 0
  | .inside value => 1 + 2 * quoteCount value
  | .quoteSeen value => 2 + 2 * quoteCount value

theorem quotesOf_append (front back : List Token) :
    quotesOf (front ++ back) = quotesOf front + quotesOf back := by
  unfold quotesOf
  rw [List.map_append, List.sum_append]

theorem quotesOf_wordToken (word : ScriptText) : quotesOf (wordToken word) = 0 := by
  unfold wordToken
  split <;> rfl

theorem quoteCount_concat (text : ScriptText) (character : Char) :
    quoteCount (text ++ [character]) =
      quoteCount text + if isSingleQuote character then 1 else 0 := by
  unfold quoteCount
  rw [List.countP_append, List.countP_singleton]

theorem quotes_readOutside {tokens : List Token} {word : ScriptText} {character : Char}
    (isRead : (readOutside tokens word character).mode ≠ .unread) :
    quotesOf (readOutside tokens word character).tokens +
        (readOutside tokens word character).mode.quotes =
      quotesOf tokens + if isSingleQuote character then 1 else 0 := by
  revert isRead
  unfold readOutside
  by_cases quote : isSingleQuote character = true
  · rw [if_pos quote, if_pos quote]
    by_cases empty : word.isEmpty = true
    · rw [if_pos empty]
      exact fun _ => rfl
    · rw [if_neg empty]
      exact fun isRead => absurd rfl isRead
  · rw [if_neg quote, if_neg quote]
    repeat' split
    · exact fun isRead => absurd rfl isRead
    · intro _
      rw [quotesOf_append, quotesOf_wordToken]
      rfl
    · intro _
      rw [quotesOf_append, quotesOf_append, quotesOf_wordToken]
      rfl
    · intro _
      rw [quotesOf_append, quotesOf_append, quotesOf_wordToken]
      rfl
    · exact fun _ => rfl

/-- One character counts for what it is. -/
theorem quotes_read {state : ScriptState} {character : Char}
    (isRead : (readChar state character).mode ≠ .unread) :
    quotesOf (readChar state character).tokens + (readChar state character).mode.quotes =
      quotesOf state.tokens + state.mode.quotes + if isSingleQuote character then 1 else 0 := by
  obtain ⟨tokens, mode⟩ := state
  cases mode with
  | outside word => exact quotes_readOutside isRead
  | inside value =>
      by_cases quote : isSingleQuote character = true
      · simp only [readChar, quote, if_true, Mode.quotes]
        omega
      · simp only [readChar, quote, if_false, Mode.quotes, quoteCount_concat, Bool.false_eq_true]
        omega
  | quoteSeen value =>
      by_cases quote : isSingleQuote character = true
      · simp only [readChar, quote, if_true, Mode.quotes, quoteCount_concat]
        omega
      · have isOutside : readChar ⟨tokens, .quoteSeen value⟩ character =
            readOutside (tokens ++ [Token.string value]) [] character := by
          simp [readChar, quote]
        rw [isOutside] at isRead ⊢
        rw [quotes_readOutside isRead, quotesOf_append]
        rfl
  | unread => exact absurd rfl isRead

theorem foldl_readChar_unread (text : ScriptText) (tokens : List Token) :
    text.foldl readChar ⟨tokens, .unread⟩ = ⟨tokens, .unread⟩ := by
  induction text with
  | nil => rfl
  | cons character text ih => exact ih

variable {text : ScriptText}

theorem quotes_foldl {state : ScriptState} (isRead : (text.foldl readChar state).mode ≠ .unread) :
    quotesOf (text.foldl readChar state).tokens + (text.foldl readChar state).mode.quotes =
      quotesOf state.tokens + state.mode.quotes + quoteCount text := by
  induction text generalizing state with
  | nil => rfl
  | cons character text ih =>
      have first : (readChar state character).mode ≠ .unread := by
        intro unread
        apply isRead
        have same : readChar state character = ⟨(readChar state character).tokens, .unread⟩ := by
          rw [← unread]
        rw [List.foldl_cons, same, foldl_readChar_unread]
      have count : quoteCount (character :: text) =
          (if isSingleQuote character then 1 else 0) + quoteCount text := by
        unfold quoteCount
        rw [List.countP_cons, Nat.add_comm]
      rw [List.foldl_cons, ih isRead, quotes_read first, count]
      omega

/-- Every quote character of a text that is read belongs to one of its strings. -/
theorem quotesOf_tokensOf {tokens : List Token} (tokenized : tokensOf text = some tokens) :
    quotesOf tokens = quoteCount text := by
  unfold tokensOf finish at tokenized
  have isRead : (text.foldl readChar start).mode ≠ .unread := by
    intro unread
    rw [unread] at tokenized
    exact nomatch tokenized
  have total := quotes_foldl isRead
  have none' : quotesOf start.tokens + start.mode.quotes = 0 := rfl
  rw [none', Nat.zero_add] at total
  rw [← total]
  cases mode : (text.foldl readChar start).mode with
  | outside word =>
      rw [mode] at tokenized
      rw [← Option.some.inj tokenized, quotesOf_append, quotesOf_wordToken]
      rfl
  | inside value =>
      rw [mode] at tokenized
      exact nomatch tokenized
  | quoteSeen value =>
      rw [mode] at tokenized
      rw [← Option.some.inj tokenized, quotesOf_append]
      rfl
  | unread => exact absurd mode isRead

def curlyCount (text : ScriptText) : Nat := text.countP isCurlyQuote

theorem curlyCount_zero_iff :
    curlyCount text = 0 ↔ forall character, character ∈ text -> isCurlyQuote character = false := by
  unfold curlyCount
  rw [List.countP_eq_zero]
  exact forall₂_congr fun character _ => by rw [Bool.not_eq_true]

/-- The quoting spends one character too few on every curly quote. -/
theorem quoteCount_quote (value : ScriptText) :
    quoteCount (powershellQuote value) + curlyCount value = 2 + 2 * quoteCount value := by
  have escaped : quoteCount (psSingleQuoteEscape value) + curlyCount value =
      2 * quoteCount value := by
    induction value with
    | nil => rfl
    | cons character value ih =>
        have whole : psSingleQuoteEscape (character :: value) =
            (if character = '\'' then ['\'', '\''] else [character]) ++ psSingleQuoteEscape value := rfl
        unfold quoteCount curlyCount at ih ⊢
        rw [whole, List.countP_append, List.countP_cons, List.countP_cons]
        by_cases apostrophe : character = '\''
        · have pair : ['\'', '\''].countP isSingleQuote = 2 := rfl
          have straight : isCurlyQuote '\'' = false := rfl
          have single : isSingleQuote '\'' = true := rfl
          rw [if_pos apostrophe, pair, apostrophe, straight, single, if_pos rfl,
            if_neg Bool.false_ne_true]
          omega
        · have single : isSingleQuote character = isCurlyQuote character := by
            unfold isSingleQuote
            rw [beq_eq_false_iff_ne.mpr apostrophe, Bool.false_or]
          rw [if_neg apostrophe, List.countP_singleton, single]
          by_cases curly : isCurlyQuote character = true
          · rw [if_pos curly]
            omega
          · rw [if_neg curly]
            omega
  have ends : quoteCount (powershellQuote value) = 2 + quoteCount (psSingleQuoteEscape value) := by
    have first : isSingleQuote '\'' = true := rfl
    unfold powershellQuote quoteCount
    rw [List.countP_cons_of_pos first, List.countP_append, List.countP_singleton, if_pos first]
    omega
  omega

/-! ## One quoted value -/

def Plain (value : ScriptText) : Prop :=
  forall character, character ∈ value -> isCurlyQuote character = false

instance (value : ScriptText) : Decidable (Plain value) :=
  decidable_of_iff (value.all fun character => !isCurlyQuote character) (by simp [Plain])

/-- The quoted value is the first token of any text that it starts, and its
string ends where the quoting does. -/
def ReadsBack (value : ScriptText) : Prop :=
  forall rest, (forall character, rest.head? = some character -> isSingleQuote character = false) ->
    tokensOf (powershellQuote value ++ rest) = (tokensOf rest).map (Token.string value :: ·)

/-- A string is over if no quote character follows. -/
theorem finish_quoteSeen {rest : ScriptText}
    (notQuote : forall character, rest.head? = some character -> isSingleQuote character = false)
    (tokens : List Token) (value : ScriptText) :
    (rest.foldl readChar ⟨tokens, .quoteSeen value⟩).finish =
      (rest.foldl readChar ⟨tokens ++ [Token.string value], .outside []⟩).finish := by
  cases rest with
  | nil => simp [finish, wordToken]
  | cons character rest =>
      have closes : readChar ⟨tokens, .quoteSeen value⟩ character =
          readChar ⟨tokens ++ [Token.string value], .outside []⟩ character := by
        simp [readChar, notQuote character rfl]
      rw [List.foldl_cons, List.foldl_cons, closes]

theorem finish_tokens (text : ScriptText) (front tokens : List Token) (mode : Mode) :
    (text.foldl readChar ⟨front ++ tokens, mode⟩).finish =
      (text.foldl readChar ⟨tokens, mode⟩).finish.map (front ++ ·) := by
  rw [foldl_readChar_tokens]
  unfold finish
  dsimp only
  cases (text.foldl readChar ⟨tokens, mode⟩).mode <;> simp

theorem readsBack_iff (value : ScriptText) : ReadsBack value ↔ Plain value := by
  constructor
  · intro back
    have alone := back [] nofun
    rw [List.append_nil] at alone
    have total := quotesOf_tokensOf alone
    have counted := quoteCount_quote value
    have single : quotesOf [.string value] = 2 + 2 * quoteCount value := rfl
    have same : quotesOf [.string value] = quoteCount (powershellQuote value) := total
    apply curlyCount_zero_iff.mp
    omega
  · intro plain rest notQuote
    unfold tokensOf
    have first : (powershellQuote value).foldl readChar start = ⟨[], .quoteSeen value⟩ :=
      foldl_readChar_quote plain []
    rw [List.foldl_append, first, finish_quoteSeen notQuote, List.nil_append]
    exact finish_tokens rest [.string value] [] (.outside [])

/-! ## Scripts with values in them -/

/-- A piece of a script: its own text, or a value that is quoted into it. -/
inductive Fragment where
  | raw (text : ScriptText)
  | quoted (value : ScriptText)

namespace Fragment

def render : Fragment -> ScriptText
  | raw text => text
  | quoted value => powershellQuote value

def tokens : Fragment -> List Token
  | raw text => (tokensOf text).getD []
  | quoted value => [.string value]

/-- The value of a quoted piece. -/
def value? : Fragment -> Option ScriptText
  | raw _ => none
  | quoted value => some value

/-- Text without strings that leaves no word open. -/
def Closed (text : ScriptText) : Prop :=
  quoteCount text = 0 ∧ (text.foldl readChar start).mode = .outside []

instance (text : ScriptText) : Decidable (Closed text) := inferInstanceAs (Decidable (_ ∧ _))

end Fragment

def render (fragments : List Fragment) : ScriptText := fragments.flatMap Fragment.render

/-- Own text is closed, and it stands between any two values. -/
def WellPut : List Fragment -> Prop
  | [] => True
  | .raw text :: rest => text ≠ [] ∧ Fragment.Closed text ∧ WellPut rest
  | .quoted _ :: rest => (forall fragment, rest.head? = some fragment -> fragment.value? = none) ∧
      WellPut rest

theorem WellPut.append {front back : List Fragment} (first : WellPut front) (second : WellPut back)
    (apart : forall fragment, back.head? = some fragment -> fragment.value? = none) :
    WellPut (front ++ back) := by
  induction front with
  | nil => exact second
  | cons fragment front ih =>
      cases fragment with
      | raw text => exact ⟨first.1, first.2.1, ih first.2.2⟩
      | quoted value =>
          refine ⟨?_, ih first.2⟩
          cases front with
          | nil => exact apart
          | cons next front => exact first.1

theorem tokensOf_closed (closed : Fragment.Closed text) :
    text.foldl readChar start = ⟨(Fragment.raw text).tokens, .outside []⟩ := by
  have whole : tokensOf text = some (text.foldl readChar start).tokens := by
    unfold tokensOf finish
    rw [closed.2]
    simp [wordToken]
  have own : (Fragment.raw text).tokens = (text.foldl readChar start).tokens := by
    show (tokensOf text).getD [] = _
    rw [whole]
    rfl
  rw [own, ← closed.2]

/-- What starts behind a value is no quote character. -/
theorem head_of_wellPut {rest : List Fragment} (put : WellPut rest)
    (apart : forall fragment, rest.head? = some fragment -> fragment.value? = none) :
    forall character, (render rest).head? = some character -> isSingleQuote character = false := by
  intro character isHead
  cases rest with
  | nil => exact nomatch isHead
  | cons fragment rest =>
      cases fragment with
      | quoted value => exact nomatch apart _ rfl
      | raw text =>
          obtain ⟨nonempty, closed, _⟩ := put
          have member : character ∈ text := by
            cases text with
            | nil => exact absurd rfl nonempty
            | cons first text =>
                obtain rfl := Option.some.inj isHead
                exact List.mem_cons_self
          exact Bool.eq_false_iff.mpr (List.countP_eq_zero.mp closed.1 character member)

variable {fragments : List Fragment}

theorem finish_render (put : WellPut fragments)
    (plain : forall value, Fragment.quoted value ∈ fragments -> Plain value) (tokens : List Token) :
    ((render fragments).foldl readChar ⟨tokens, .outside []⟩).finish =
      some (tokens ++ fragments.flatMap Fragment.tokens) := by
  induction fragments generalizing tokens with
  | nil => simp [render, finish, wordToken]
  | cons fragment rest ih =>
      have later : forall value, Fragment.quoted value ∈ rest -> Plain value :=
        fun value member => plain value (List.mem_cons_of_mem _ member)
      have whole : render (fragment :: rest) = fragment.render ++ render rest := rfl
      rw [whole, List.foldl_append, List.flatMap_cons, ← List.append_assoc]
      cases fragment with
      | raw text =>
          obtain ⟨_, closed, put⟩ := put
          have first := foldl_readChar_tokens text tokens [] (.outside [])
          rw [List.append_nil] at first
          have own : text.foldl readChar ⟨[], .outside []⟩ = _ := tokensOf_closed closed
          rw [own] at first
          rw [Fragment.render, first]
          exact ih put later _
      | quoted value =>
          obtain ⟨apart, put⟩ := put
          rw [Fragment.render, foldl_readChar_quote (plain value List.mem_cons_self),
            finish_quoteSeen (head_of_wellPut put apart)]
          exact ih put later _

/-- The values and what they are short of add up over the pieces. -/
theorem quotesOf_render (put : WellPut fragments) :
    quotesOf (fragments.flatMap Fragment.tokens) =
      quoteCount (render fragments) + ((fragments.filterMap Fragment.value?).map curlyCount).sum := by
  induction fragments with
  | nil => rfl
  | cons fragment rest ih =>
      have whole : quoteCount (render (fragment :: rest)) =
          quoteCount fragment.render + quoteCount (render rest) := List.countP_append
      rw [List.flatMap_cons, quotesOf_append, whole]
      cases fragment with
      | raw text =>
          obtain ⟨_, closed, put⟩ := put
          have own : tokensOf text = some (Fragment.raw text).tokens := by
            unfold tokensOf finish
            rw [tokensOf_closed closed]
            simp [wordToken]
          have none' : quotesOf (Fragment.raw text).tokens = 0 := (quotesOf_tokensOf own).trans closed.1
          have ownText : quoteCount (Fragment.raw text).render = 0 := closed.1
          rw [ih put, none', ownText, List.filterMap_cons_none rfl]
          omega
      | quoted value =>
          have counted := quoteCount_quote value
          have single : quotesOf (Fragment.quoted value).tokens = 2 + 2 * quoteCount value := rfl
          have isQuote : quoteCount (Fragment.quoted value).render =
              quoteCount (powershellQuote value) := rfl
          have values : (Fragment.quoted value :: rest).filterMap Fragment.value? =
              value :: rest.filterMap Fragment.value? := rfl
          rw [ih put.2, single, isQuote, values, List.map_cons, List.sum_cons]
          omega

theorem quotesOf_splitStatements (statement tokens : List Token) :
    quotesOf (splitStatements statement tokens).flatten = quotesOf statement + quotesOf tokens := by
  induction tokens generalizing statement with
  | nil =>
      rw [splitStatements]
      by_cases empty : statement.isEmpty = true
      · rw [if_pos empty, List.isEmpty_iff.mp empty]
        rfl
      · rw [if_neg empty, List.flatten_singleton]
        rfl
  | cons token rest ih =>
      have first : quotesOf (token :: rest) = token.quotes + quotesOf rest := rfl
      rw [splitStatements, first]
      by_cases ends : token = .separator
      · have free : Token.separator.quotes = 0 := rfl
        rw [if_pos ends, ends, free, Nat.zero_add]
        by_cases empty : statement.isEmpty = true
        · rw [if_pos empty, ih, List.isEmpty_iff.mp empty]
        · have none' : quotesOf [] = 0 := rfl
          rw [if_neg empty, List.flatten_cons, quotesOf_append, ih, none',
            Nat.zero_add]
      · have single : quotesOf [token] = token.quotes := by
          simp [quotesOf]
        rw [if_neg ends, ih, quotesOf_append, single, Nat.add_assoc]

/-- A script is read as it was meant exactly where every value is plain. -/
theorem statementsOf_render_iff (put : WellPut fragments) :
    statementsOf (render fragments) =
        some (splitStatements [] (fragments.flatMap Fragment.tokens)) ↔
      forall value, Fragment.quoted value ∈ fragments -> Plain value := by
  constructor
  · intro meant value member
    obtain ⟨tokens, tokenized, same⟩ := Option.map_eq_some_iff.mp meant
    have total : quotesOf tokens = quotesOf (fragments.flatMap Fragment.tokens) := by
      have first := quotesOf_splitStatements [] tokens
      rw [same, quotesOf_splitStatements] at first
      exact (Nat.add_left_cancel first).symm
    rw [quotesOf_tokensOf tokenized, quotesOf_render put] at total
    have none' : ((fragments.filterMap Fragment.value?).map curlyCount).sum = 0 := by omega
    have each := List.sum_eq_zero_iff_forall_eq_nat.mp none'
    apply curlyCount_zero_iff.mp
    apply each
    exact List.mem_map.mpr ⟨value, List.mem_filterMap.mpr ⟨_, member, rfl⟩, rfl⟩
  · intro plain
    have tokenized : tokensOf (render fragments) = some (fragments.flatMap Fragment.tokens) :=
      finish_render put plain []
    unfold statementsOf
    rw [tokenized]
    rfl

end Process
end RocmCli
