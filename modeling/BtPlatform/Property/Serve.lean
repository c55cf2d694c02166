import BtPlatform.Property.Persist
import BtPlatform.Support.CBuffer
import BtPlatform.Support.Status
import Mathlib.Data.List.Infix

/-!
# The property server

What `io_thread_handler` does with the bytes that a client sends: the commands between commas
are separated, each one is split at blanks and executed on the list of properties, and what
the reply buffer then holds is sent. Each row of a table is an array of its own; a step that
leaves an array, or reads on where there is no terminator, is an error.
-/

namespace Property

open Support List

/-- How the program leaves its arrays. -/
inductive OutOfBounds
  | read
  | write
  deriving DecidableEq

def blank : UInt8 := 32

/-- A string that fits into a row of a table. -/
abbrev Row := CString MAX_ALLOWED_LINE_LEN

def Row.empty : Row := CString.empty MAX_ALLOWED_LINE_LEN (by decide)

/-- The text of a literal. -/
def ascii (literal : List Char) : List UInt8 := literal.map fun ch => UInt8.ofNat ch.toNat

def getProperty : List UInt8 :=
  ascii ['g', 'e', 't', '_', 'p', 'r', 'o', 'p', 'e', 'r', 't', 'y']

def setProperty : List UInt8 :=
  ascii ['s', 'e', 't', '_', 'p', 'r', 'o', 'p', 'e', 'r', 't', 'y']

def startHci : List UInt8 :=
  ascii ['w', 'c', '_', 't', 'r', 'a', 'n', 's', 'p', 'o', 'r', 't', '.', 's', 't', 'a', 'r',
    't', '_', 'h', 'c', 'i']

def startBtsnoop : List UInt8 :=
  ascii ['b', 'l', 'u', 'e', 't', 'o', 'o', 't', 'h', '.', 's', 't', 'a', 'r', 't', 'b', 't',
    's', 'n', 'o', 'o', 'p']

def isEnabled : List UInt8 :=
  ascii ['b', 'l', 'u', 'e', 't', 'o', 'o', 't', 'h', '.', 'i', 's', 'E', 'n', 'a', 'b', 'l',
    'e', 'd']

def trueText : List UInt8 := ascii ['t', 'r', 'u', 'e']

/-! ## Tokens -/

/-- The parts between the delimiters, empty ones included. -/
def parts (delimiter : UInt8) : List UInt8 → List (List UInt8)
  | [] => []
  | b :: text =>
      if b = delimiter then [] :: parts delimiter text
      else
        match parts delimiter text with
        | [] => [[b]]
        | part :: others => (b :: part) :: others

/-- What `strtok_r` returns one after the other. -/
def tokens (delimiter : UInt8) (text : List UInt8) : List (List UInt8) :=
  (parts delimiter text).filter (!·.isEmpty)

/-- `strlcpy` of each token into the next of so many rows. -/
def copyTokens : Nat → List (List UInt8) → Except OutOfBounds (List Row)
  | _, [] => .ok []
  | 0, _ :: _ => .error .write
  | rows + 1, token :: others =>
      match strlcpy MAX_ALLOWED_LINE_LEN token (token.length + 1) with
      | none => .error .write
      | some row => (copyTokens rows others).map (row :: ·)

/-! ## The reply buffer -/

/-- `prop_val`. -/
structure Reply where
  bytes : List UInt8
  size : bytes.length = MAX_ALLOWED_LINE_LEN

namespace Reply

/-- `memset(prop_val, 0, MAX_ALLOWED_LINE_LEN)` -/
def cleared : Reply := ⟨replicate MAX_ALLOWED_LINE_LEN 0, length_replicate⟩

/-- `snprintf(prop_val, MAX_ALLOWED_LINE_LEN, "%s", …)`; the terminator that is written once
more is the same. -/
def print (reply : Reply) (value : Value) : Reply where
  bytes := value.chars ++ 0 :: reply.bytes.drop (value.chars.length + 1)
  size := by
    have hfits : value.chars.length < 80 := value.fits
    have hsize : reply.bytes.length = 80 := reply.size
    rw [length_append, length_cons, length_drop, hsize]
    change _ = 80
    omega

/-- `prop_val[strlen(prop_val)] = ','` -/
def appendComma (reply : Reply) : Except OutOfBounds Reply :=
  match strlen reply.bytes with
  | none => .error .read
  | some n => .ok ⟨reply.bytes.set n comma, by rw [length_set]; exact reply.size⟩

end Reply

/-! ## Commands -/

/-- What `system` is called for. -/
inductive Action
  | startFilter
  | startSnoop
  | stopSnoop
  | startAbt
  | stopAbt
  deriving DecidableEq

/-- The property that an action is for. -/
def Action.property : Action → List UInt8
  | .startFilter => startHci
  | .startSnoop | .stopSnoop => startBtsnoop
  | .startAbt | .stopAbt => isEnabled

/-- The comparisons of `parse_and_exec` with `strncmp` over the length of what was received. -/
def actionsOf (propName propValue : Row) : List Action :=
  let isTrue := propValue.chars.isPrefixOf trueText
  (if propName.chars.isPrefixOf startHci && isTrue then [.startFilter] else []) ++
    (if propName.chars.isPrefixOf startBtsnoop then
      [if isTrue then .startSnoop else .stopSnoop] else []) ++
    (if propName.chars.isPrefixOf isEnabled then
      [if isTrue then .startAbt else .stopAbt] else [])

/-- The list, the reply buffer, and what was done for each command so far: the text that was
sent, empty if nothing was, and each action with the name in the command. -/
structure Server where
  list : List PropertyUnit
  reply : Reply
  sent : List (List UInt8)
  actions : List (Action × Row)

namespace Server

/-- `parse_and_exec` for `GET_PROP_VALUE`, with the comma behind it. -/
def execGet (s : Server) (parsedData : List Row) : Except OutOfBounds Server :=
  let propName := parsedData.getD 1 Row.empty
  let reply :=
    match getPropertyValueBt propName s.list with
    | some value => s.reply.print value
    | none => s.reply
  reply.appendComma.map fun reply => { s with reply }

/-- `parse_and_exec` for `SET_PROP_VALUE`. -/
def execSet (s : Server) (allocated : Bool) (parsedData : List Row) : Server :=
  let propName := parsedData.getD 1 Row.empty
  let propValue := parsedData.getD 2 Row.empty
  { s with
    list := (updatePropValue allocated propName propValue s.list).1
    actions := s.actions ++ (actionsOf propName propValue).map fun action => (action, propName) }

def issuePropertyCommand (s : Server) (allocated : Bool) (command : List UInt8) :
    Except OutOfBounds Server :=
  if getProperty <:+: command then
    copyTokens MAX_PROPERTY_ITER (tokens blank command) >>= s.execGet
  else if setProperty <:+: command then
    (copyTokens MAX_PROPERTY_ITER (tokens blank command)).map (s.execSet allocated)
  else .ok s

/-- `send` of the reply buffer up to its terminator. -/
def send (s : Server) : Except OutOfBounds Server :=
  match cText s.reply.bytes with
  | none => .error .read
  | some text => .ok { s with sent := s.sent ++ [text] }

/-- The loop over the commands from this one on. -/
def serve (allocated : Nat → Bool) : Nat → List (List UInt8) → Server → Except OutOfBounds Server
  | _, [], s => .ok s
  | i, command :: commands, s =>
      s.issuePropertyCommand (allocated i) command >>= fun s =>
        s.send >>= serve allocated (i + 1) commands

end Server

/-- The first command of the buffer after `separate_recvd_commands`, with the delimiters in
front of it. -/
def firstCommand (text : List UInt8) : List UInt8 :=
  text.takeWhile (· = comma) ++ (text.dropWhile (· = comma)).takeWhile (· ≠ comma)

/-- What is served: a single command from the buffer itself, several from their rows. -/
def commandsOf (text : List UInt8) : List (List UInt8) :=
  if (tokens comma text).length = 1 then [firstCommand text] else tokens comma text

/-- `buf` behind `recv`. -/
def recvBuffer (received : List UInt8) : List UInt8 :=
  received ++ replicate (1024 - received.length) 0

/-- What `io_thread_handler` does with the bytes received. -/
def handleReceived (allocated : Nat → Bool) (list : List PropertyUnit) (received : List UInt8) :
    Except OutOfBounds Server :=
  match cText (recvBuffer received) with
  | none => .error .read
  | some text =>
      copyTokens MAX_ALLOWED_LINE_LEN (tokens comma text) >>= fun _ =>
        Server.serve allocated 0 (commandsOf text) ⟨list, .cleared, [], []⟩

end Property
