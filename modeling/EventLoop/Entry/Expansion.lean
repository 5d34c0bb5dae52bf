import EventLoop.Entry.Lexer

/-!
# Entry points

An asynchronous function becomes an ordinary one that builds an event loop, binds every parameter to
a handle of that loop and runs the old body to completion. Options of the loop come from the
attribute, as settings separated by commas.
-/
namespace EventLoop.Entry

/-- The options of the loop that an attribute may set. -/
def builderOptions : List String := ["read_buffer_size", "lost_write_threshold", "max_events"]

/-- The runs of tokens between commas at the top level; empty runs are left out. -/
def splitArguments (tokens : List Token) : List (List Token) :=
  (go tokens []).filter fun argument => !argument.isEmpty
where
  /-- Splits, given the tokens since the last comma, last first. -/
  go : List Token → List Token → List (List Token)
    | [], current => [current.reverse]
    | token :: rest, current =>
      if token.isPunctOf ',' then current.reverse :: go rest [] else go rest (token :: current)

/-- The tokens of one argument side by side, with a space between two identifiers only. -/
def argumentText : List Token → String
  | [] => ""
  | [token] => token.print
  | token :: next :: rest =>
    token.print ++ (if token.isWord && next.isWord then " " else "") ++ argumentText (next :: rest)

/-- Whether a character is blank around a setting. -/
def isSpace (c : Char) : Bool := isBlank c && c != '\u200e' && c != '\u200f'

/-- A text without the blanks at both ends. -/
def trimmed (text : List Char) : List Char :=
  ((text.dropWhile isSpace).reverse.dropWhile isSpace).reverse

/-- The runs of characters between commas. -/
def splitCommas : List Char → List (List Char)
  | [] => [[]]
  | c :: rest =>
    if c = ',' then [] :: splitCommas rest
    else match splitCommas rest with
      | part :: parts => (c :: part) :: parts
      | [] => [[c]]

/-- The number that decimal digits stand for, if there are any and nothing else, and it fits a
machine word of 64 bits; a plus sign may stand in front. -/
def readCount? (text : List Char) : Option Nat :=
  let digits := match text with
    | '+' :: rest => rest
    | digits => digits
  if digits.isEmpty || !digits.all isDecimal then none
  else
    let value := digits.foldl (fun total c => 10 * total + (c.toNat - '0'.toNat)) 0
    if value < 1 <<< 64 then some value else none

/-- The option and the number that a setting names, if it names an option of the loop. -/
def readSetting? (text : List Char) : Option (String × Nat) :=
  match text.dropWhile (· != '=') with
  | [] => none
  | _ :: value =>
    let key := String.ofList (trimmed (text.takeWhile (· != '=')))
    match readCount? (trimmed value) with
    | some count => if builderOptions.contains key then some (key, count) else none
    | none => none

/-- The settings that the print of an attribute names, in order. -/
def readSettings (settings : List Token) : List (String × Nat) :=
  (splitCommas (Token.printAll settings).toList).filterMap readSetting?

/-- The expression that builds a loop with the settings of an attribute. -/
def builderText (settings : List Token) : String :=
  "::tulip::EventLoopBuilder::new()"
    ++ String.join ((readSettings settings).map fun (key, count) =>
      "." ++ key ++ "(" ++ toString count ++ ")")
    ++ ".build()"

/-- The statement that binds a parameter to a handle. -/
def bindingText (parameter : List Token) : String :=
  "let " ++ argumentText parameter ++ " = __event_loop.handle();\n"

/-- The body of the ordinary function: the loop, the bindings and the run of the old body. Its layout
shows where the text of the purpose opens a quoted text or a comment that goes on over the lines
that follow. -/
def bodyText (settings : List Token) (bindings body what : String) : String :=
  "\x7b\n"
    ++ "            let __event_loop = " ++ builderText settings
    ++ ".expect(\"failed to build the event loop\");\n"
    ++ "            " ++ bindings ++ "\n"
    ++ "            __event_loop\n"
    ++ "                .run_until_complete(async move \x7b " ++ body ++ " \x7d)\n"
    ++ "                .expect(\"event loop stopped before " ++ what ++ " completed\")\n"
    ++ "        \x7d"

/-- What stands in for a function whose new body is malformed. -/
def failureText : String := "compile_error!(\"tulip: could not rewrite the function body\");"

/-- The position of the last element that satisfies a condition. -/
def lastIndex? (condition : Token → Bool) (tokens : List Token) : Option Nat :=
  (tokens.reverse.findIdx? condition).map fun index => tokens.length - 1 - index

/-- The item without its first qualifier for asynchronous functions. -/
def dropAsync (item : List Token) : List Token := item.eraseP (·.isWordOf "async")

/-- The content of a group. -/
def contentOf : Option Token → List Token
  | some (.group _ content) => content
  | _ => []

/-- The item as an ordinary function: the first round group becomes empty and its arguments are
bound, and the last group in curly brackets becomes the new body. An item without such a group
expands to nothing. -/
def expand (settings item : List Token) (what : String) : List Token :=
  let tokens := dropAsync item
  match lastIndex? (·.isGroupOf .brace) tokens with
  | none => []
  | some body =>
    let parameters? := tokens.findIdx? (·.isGroupOf .parenthesis)
    let arguments := match parameters? with
      | some parameters => splitArguments (contentOf tokens[parameters]?)
      | none => []
    let emptied := match parameters? with
      | some parameters => tokens.set parameters (.group .parenthesis [])
      | none => tokens
    let bindings := String.join (arguments.map bindingText)
    let oldBody := Token.printAll (contentOf tokens[body]?)
    match tokenize (bodyText settings bindings oldBody what) with
    | some content => emptied.set body (.group .brace content)
    | none => (tokenize failureText).getD []

end EventLoop.Entry
