import EventLoop.Entry.Expansion
import Mathlib.Data.List.Flatten

/-!
# Arguments and the rewritten item

Arguments are runs of tokens between commas at the top level, so splitting puts apart what commas had put
together and loses no other token. Rewriting an item changes three of its tokens at most: the qualifier that
goes away, the group of the parameters and the group of the body.
-/
namespace EventLoop.Entry

/-! ## Splitting -/

/-- No token of a run is a comma. -/
def Plain (argument : List Token) : Prop := ∀ token ∈ argument, token.isPunctOf ',' = false

/-- Runs of tokens with commas between them; a comma may be joint. -/
def listed (first : List Token) (rest : List (Bool × List Token)) : List Token :=
  first ++ rest.flatMap fun entry => .punct ',' entry.1 :: entry.2

/-- Arguments are listed with a comma between two of them. -/
theorem listed_cons (first : List Token) (joint : Bool) (next : List Token)
    (rest : List (Bool × List Token)) :
    listed first ((joint, next) :: rest) = first ++ .punct ',' joint :: listed next rest := by
  simp [listed]

/-- Only commas are commas. -/
theorem Token.eq_punct_of_isPunctOf {token : Token} {char : Char} (same : token.isPunctOf char = true) :
    ∃ joint, token = .punct char joint := by
  cases token with
  | punct found joint => exact ⟨joint, by rw [beq_iff_eq.mp same]⟩
  | word | literal | group => cases same

/-- Whatever the tokens are, they are runs with commas between them. -/
theorem exists_listed (tokens : List Token) :
    ∃ first rest, tokens = listed first rest ∧ Plain first ∧ ∀ entry ∈ rest, Plain entry.2 := by
  induction tokens with
  | nil => exact ⟨[], [], rfl, fun _ member => (nomatch member), fun _ member => (nomatch member)⟩
  | cons token tokens ih =>
    obtain ⟨first, rest, rfl, plain, plains⟩ := ih
    cases comma : token.isPunctOf ',' with
    | true =>
      obtain ⟨joint, rfl⟩ := Token.eq_punct_of_isPunctOf comma
      refine ⟨[], (joint, first) :: rest, (listed_cons [] joint first rest).symm,
        fun _ member => (nomatch member), ?_⟩
      rintro entry (_ | ⟨_, member⟩)
      · exact plain
      · exact plains entry member
    | false =>
      refine ⟨token :: first, rest, rfl, ?_, plains⟩
      rintro other (_ | ⟨_, member⟩)
      · exact comma
      · exact plain other member

namespace splitArguments

/-- Tokens other than commas are kept for the argument that they are part of. -/
theorem go_append {argument : List Token} (plain : Plain argument) (rest current : List Token) :
    go (argument ++ rest) current = go rest (argument.reverse ++ current) := by
  induction argument generalizing current with
  | nil => rfl
  | cons token argument ih =>
    rw [List.cons_append, go, if_neg (by simp [plain token List.mem_cons_self]),
      ih (fun other member => plain other (List.mem_cons_of_mem _ member)), List.reverse_cons,
      List.append_assoc, List.singleton_append]

/-- Plain arguments are found again in their list. -/
theorem go_listed {first : List Token} {rest : List (Bool × List Token)} (plain : Plain first)
    (plains : ∀ entry ∈ rest, Plain entry.2) : go (listed first rest) [] = first :: rest.map Prod.snd := by
  induction rest generalizing first with
  | nil =>
    rw [listed, go_append plain]
    simp [go]
  | cons entry rest ih =>
    obtain ⟨joint, next⟩ := entry
    have split : go (listed next rest) [] = next :: rest.map Prod.snd :=
      ih (plains _ List.mem_cons_self) fun other member => plains other (List.mem_cons_of_mem _ member)
    have comma : (Token.punct ',' joint).isPunctOf ',' = true := beq_self_eq_true ','
    rw [listed_cons, go_append plain, go, if_pos comma, split]
    simp

end splitArguments

/-- Splitting takes runs apart that commas had put together, and leaves the empty ones out. -/
theorem splitArguments_listed {first : List Token} {rest : List (Bool × List Token)} (plain : Plain first)
    (plains : ∀ entry ∈ rest, Plain entry.2) :
    splitArguments (listed first rest) = (first :: rest.map Prod.snd).filter (!·.isEmpty) :=
  congrArg (List.filter _) (splitArguments.go_listed plain plains)

/-- No argument is empty or has a comma. -/
theorem plain_of_mem_splitArguments {tokens argument : List Token}
    (member : argument ∈ splitArguments tokens) : argument ≠ [] ∧ Plain argument := by
  obtain ⟨first, rest, rfl, plain, plains⟩ := exists_listed tokens
  rw [splitArguments_listed plain plains, List.mem_filter, List.mem_cons, List.mem_map] at member
  obtain ⟨rfl | ⟨entry, listed, rfl⟩, some⟩ := member
  · exact ⟨by simpa using some, plain⟩
  · exact ⟨by simpa using some, plains entry listed⟩

/-- Nothing but the commas is lost, and the order stays. -/
theorem flatten_splitArguments (tokens : List Token) :
    (splitArguments tokens).flatten = tokens.filter (!·.isPunctOf ',') := by
  obtain ⟨first, rest, rfl, plain, plains⟩ := exists_listed tokens
  have keeps {argument : List Token} (plain : Plain argument) :
      argument.filter (!·.isPunctOf ',') = argument :=
    List.filter_eq_self.mpr fun token member => by rw [plain token member]; rfl
  rw [splitArguments_listed plain plains, List.flatten_filter_not_isEmpty]
  induction rest generalizing first with
  | nil => simp [listed, keeps plain]
  | cons entry rest ih =>
    obtain ⟨joint, next⟩ := entry
    have rests := ih next (plains _ List.mem_cons_self) fun other member =>
      plains other (List.mem_cons_of_mem _ member)
    rw [listed_cons, List.filter_append, keeps plain, List.filter_cons_of_neg (by simp [Token.isPunctOf]),
      ← rests]
    rfl

/-! ## The rewritten item -/

section Rewriting

variable {first second middle after params body content before rest : List Token} {token : Token}
variable {condition : Token → Bool} {what : String}

/-- Only the first qualifier goes away. -/
theorem dropAsync_append (none : ∀ other ∈ first, other.isWordOf "async" = false) :
    dropAsync (first ++ .word "async" :: rest) = first ++ rest := by
  have qualifier : (Token.word "async").isWordOf "async" = true := beq_self_eq_true "async"
  unfold dropAsync
  rw [List.eraseP_append_right _ fun other member => by rw [none other member]; exact Bool.false_ne_true,
    List.eraseP_cons_of_pos qualifier]

/-- The first token that satisfies a condition is found behind those that do not. -/
theorem findIdx?_of_first (none : ∀ other ∈ before, condition other = false)
    (holds : condition token = true) :
    (before ++ token :: rest).findIdx? condition = some before.length := by
  have missing : before.findIdx? condition = Option.none :=
    List.findIdx?_eq_none_iff.mpr none
  rw [List.findIdx?_append, missing, List.findIdx?_cons, if_pos holds]
  simp

/-- The last token that satisfies a condition is found before those that do not. -/
theorem lastIndex?_of_last (holds : condition token = true)
    (none : ∀ other ∈ rest, condition other = false) :
    lastIndex? condition (before ++ token :: rest) = some before.length := by
  have reversed : (before ++ token :: rest).reverse = rest.reverse ++ token :: before.reverse := by simp
  unfold lastIndex?
  rw [reversed, findIdx?_of_first (fun other member => none other (List.mem_reverse.mp member)) holds]
  simp

/-- The first round group is emptied, and the last group in curly brackets becomes what the new body is read
as. -/
theorem expand_eq {settings item head : List Token}
    (tokens : dropAsync item = head ++ .group .parenthesis params ::
      (middle ++ .group .brace body :: after))
    (rounds : ∀ other ∈ head, other.isGroupOf .parenthesis = false)
    (braces : ∀ other ∈ after, other.isGroupOf .brace = false)
    (reads : tokenize (bodyText settings (String.join ((splitArguments params).map bindingText))
      (Token.printAll body) what) = some content) :
    expand settings item what =
      head ++ .group .parenthesis [] :: (middle ++ .group .brace content :: after) := by
  have regrouped (round : Token) (curly : Token) : head ++ round :: (middle ++ curly :: after) =
      (head ++ round :: middle) ++ curly :: after := by simp
  have parameters : (dropAsync item).findIdx? (·.isGroupOf .parenthesis) = some head.length := by
    rw [tokens]
    exact findIdx?_of_first rounds rfl
  have bodies : lastIndex? (·.isGroupOf .brace) (dropAsync item) =
      some (head ++ Token.group .parenthesis params :: middle).length := by
    rw [tokens, regrouped]
    exact lastIndex?_of_last rfl braces
  have round : (dropAsync item)[head.length]? = some (.group .parenthesis params) := by
    rw [tokens, List.getElem?_append_right (Nat.le_refl _), Nat.sub_self, List.getElem?_cons_zero]
  have curly : (dropAsync item)[(head ++ Token.group .parenthesis params :: middle).length]? =
      some (.group .brace body) := by
    rw [tokens, regrouped, List.getElem?_append_right (Nat.le_refl _), Nat.sub_self,
      List.getElem?_cons_zero]
  have emptied : (dropAsync item).set head.length (.group .parenthesis []) =
      head ++ .group .parenthesis [] :: (middle ++ .group .brace body :: after) := by
    rw [tokens, List.set_append_right _ _ (Nat.le_refl _), Nat.sub_self, List.set_cons_zero]
  have same : (head ++ Token.group .parenthesis params :: middle).length =
      (head ++ Token.group .parenthesis [] :: middle).length := by simp
  unfold expand
  dsimp only
  rw [bodies, parameters]
  dsimp only
  rw [round, curly, contentOf, contentOf, reads, emptied, same, regrouped, regrouped]
  dsimp only
  rw [List.set_append_right _ _ (Nat.le_refl _), Nat.sub_self, List.set_cons_zero]

/-- An asynchronous function without round groups before its parameters keeps all its tokens in order but
three: the qualifier, the group of the parameters and the group of the body. -/
theorem expand_function (settings : List Token) (async : ∀ other ∈ first, other.isWordOf "async" = false)
    (rounds : ∀ other ∈ first ++ second, other.isGroupOf .parenthesis = false)
    (braces : ∀ other ∈ after, other.isGroupOf .brace = false)
    (reads : tokenize (bodyText settings (String.join ((splitArguments params).map bindingText))
      (Token.printAll body) what) = some content) :
    expand settings (first ++ .word "async" :: (second ++ .group .parenthesis params ::
        (middle ++ .group .brace body :: after))) what =
      first ++ second ++ .group .parenthesis [] :: (middle ++ .group .brace content :: after) :=
  expand_eq (by rw [dropAsync_append async, List.append_assoc]) rounds braces reads

end Rewriting

end EventLoop.Entry
