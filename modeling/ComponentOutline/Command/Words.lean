import ComponentOutline.Text.NumeralForm

/-!
# Words of a command line

A command line is a list of words.  A word that starts with a dash is a switch, in
full, cut short as long as it stays clear, or with what it takes after an equals
sign.  Short switches may be bundled behind one dash.  All words after a pair of
dashes are operands, and so are a lone dash, a negative number and a word with a
blank that is no switch.

All words are sorted first.  Then switches and operands take effect from left to
right, so that a call for help counts before a mistake in a later word.
-/

namespace ComponentOutline
namespace Command

/-- Why the reading of a command line ends early. -/
inductive Stop where
  /-- Help was asked for. -/
  | help (text : String)
  /-- The words are not those of a command. -/
  | misuse
  deriving DecidableEq

/-- What a switch does with the record that a command line fills in. -/
inductive Action (α : Type) where
  | help
  /-- Takes nothing. -/
  | mark (change : α → α)
  /-- Takes a word, if it is one of those that are allowed, or nothing. -/
  | take (change? : Option String → Option (α → α))

/-- The switches of a command by their names. -/
abbrev Switches (α : Type) := List (String × Action α)

/-- The pair of dashes. -/
def divider : String := "--"

/-- What stands behind a switch in the same word. -/
inductive Tail where
  | none
  /-- Text right behind the switch. -/
  | joined (text : String)
  /-- Text after an equals sign; the flag says whether the switch is a short one. -/
  | equals (short : Bool) (text : String)
  deriving DecidableEq

/-- What a word is. -/
inductive Role (α : Type) where
  | operand
  | divider
  /-- A switch with what stands behind it in the same word. -/
  | switch (action : Action α) (tail : Tail)
  | unknown

/-- A word and what it is. -/
structure Word (α : Type) where
  text : String
  role : Role α

variable {α : Type}

/-- The action of a switch. -/
def Switches.action? (switches : Switches α) (name : String) : Option (Action α) :=
  (switches.find? fun switch => switch.1 == name).map (·.2)

/-- Whether a switch is a short one: a single dash and a letter. -/
def isShort (name : String) : Bool :=
  !name.startsWith divider

/-- What stands before the first equals sign, and the sign with what follows it. -/
def splitAtEquals (word : String) : String × Tail :=
  match word.toList.dropWhile (· != '=') with
  | [] => (word, .none)
  | _ :: after =>
      let name := String.ofList (word.toList.takeWhile (· != '='))
      (name, .equals (isShort name) (String.ofList after))

/-- Drops a line end at the end. -/
def dropLineEnd (characters : List Char) : List Char :=
  if characters.getLast? = some '\n' then characters.dropLast else characters

/-- Whether a word is a negative number without an exponent; a line end may follow. -/
def isNegativeNumber (word : String) : Bool :=
  match (dropLineEnd word.toList).map numeralForm with
  | '-' :: number =>
      let whole := number.takeWhile Char.isDigit
      match number.dropWhile Char.isDigit with
      | [] => !whole.isEmpty
      | '.' :: places => !places.isEmpty && places.all Char.isDigit
      | _ => false
  | _ => false

/-- The switches that a word can mean, cut short or bundled. -/
def candidates (switches : Switches α) (word : String) : List (Role α) :=
  match word.toList with
  | '-' :: '-' :: _ =>
      let (start, tail) := splitAtEquals word
      (switches.filter fun switch => start.toList.isPrefixOf switch.1.toList).map
        fun switch => .switch switch.2 tail
  | dash :: letter :: rest =>
      let short := String.ofList [dash, letter]
      (switches.filter fun switch => switch.1 == short).map
        fun switch => .switch switch.2 (.joined (String.ofList rest))
  | _ => []

/-- What a word that is no divider means.  A word that can mean several switches is
a misuse. -/
def roleOf (switches : Switches α) (word : String) : Except Stop (Role α) :=
  if !word.startsWith "-" || word == "-" then .ok .operand
  else
    let (name, tail) := splitAtEquals word
    match switches.action? word, switches.action? name with
    | some action, _ => .ok (.switch action .none)
    | none, some action => .ok (.switch action tail)
    | none, none =>
        match candidates switches word with
        | [role] => .ok role
        | _ :: _ :: _ => .error .misuse
        | [] =>
            .ok (if isNegativeNumber word || word.toList.contains ' ' then .operand else .unknown)

/-- Sorts words. -/
def sort (switches : Switches α) : List String → Except Stop (List (Word α))
  | [] => .ok []
  | word :: rest =>
      if word == divider then
        .ok (⟨word, .divider⟩ :: rest.map fun operand => ⟨operand, .operand⟩)
      else do
        let role ← roleOf switches word
        let words ← sort switches rest
        return ⟨word, role⟩ :: words

/-- What a word with switches calls for. -/
structure Call (α : Type) where
  actions : List (Action α)
  /-- What the last action finds in the same word. -/
  word : Option String

/-- The call of short switches that are bundled behind one that takes nothing. -/
def unbundle (switches : Switches α) (first : Action α) : List Char → Except Stop (Call α)
  | [] => .error .misuse
  | letter :: rest =>
      match switches.action? (String.ofList ['-', letter]), rest with
      | none, _ => .error .misuse
      | some next, [] => .ok ⟨[first, next], none⟩
      | some (.take change?), word =>
          .ok ⟨[first, .take change?], some (String.ofList word)⟩
      | some next, _ =>
          (unbundle switches next rest).map fun call =>
            { call with actions := first :: call.actions }

/-- The call of a switch with what stands behind it in the same word.  Behind a short
switch that takes nothing stand further switches, with or without an equals sign. -/
def callOf (switches : Switches α) (action : Action α) (tail : Tail) :
    Except Stop (Call α) :=
  match tail, action with
  | .none, _ => .ok ⟨[action], none⟩
  | .joined word, .take _ => .ok ⟨[action], some word⟩
  | .equals _ word, .take _ => .ok ⟨[action], some word⟩
  | .joined letters, _ => unbundle switches action letters.toList
  | .equals true letters, _ => unbundle switches action letters.toList
  | .equals false _, _ => .error .misuse

/-- Whether the last of these actions takes a word. -/
def takesWord (actions : List (Action α)) : Bool :=
  match actions.getLast? with
  | some (.take _) => true
  | _ => false

/-- What a switch takes when it is given a word: a pair of dashes is nothing. -/
def taken (word : String) : Option String :=
  if word == divider then none else some word

/-- Performs actions from left to right; the last one may take a word. -/
def performActions (helpText : String) (word : Option String) (record : α) :
    List (Action α) → Except Stop α
  | [] => .ok record
  | .help :: _ => .error (.help helpText)
  | .mark change :: rest => performActions helpText word (change record) rest
  | .take change? :: rest =>
      match word.bind fun word => change? (taken word) with
      | some change => performActions helpText word (change record) rest
      | none => .error .misuse

/-- What is known after a switch was performed. -/
structure Performed (α : Type) where
  record : α
  /-- Whether the switch took the word after its own. -/
  tookNext : Bool

/-- Performs a switch.  If it takes a word and none stands behind it in its own word,
it takes the operand that follows. -/
def performSwitch
    (switches : Switches α)
    (helpText : String)
    (action : Action α)
    (tail : Tail)
    (next : Option (Word α))
    (record : α) : Except Stop (Performed α) := do
  let call ← callOf switches action tail
  if takesWord call.actions && call.word.isNone then
    match next with
    | some ⟨text, .operand⟩ =>
        return ⟨← performActions helpText (some text) record call.actions, true⟩
    | _ => .error .misuse
  else return ⟨← performActions helpText call.word record call.actions, false⟩

end Command
end ComponentOutline
