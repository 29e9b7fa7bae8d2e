namespace LineTopology.Text

/-- Where a terminal stands: in the text, or in a control sequence that it has begun to read. Short
sequences end at their final character, a command to the system at a bell, and a message, which
is also what a device sequence leads to, at the byte 9C. -/
inductive Control
  | text
  | escape
  | intermediate
  | parameters
  | deviceEntry
  | deviceParameters
  | deviceIntermediate
  | command
  | message
  deriving DecidableEq

def isWithin (low high : Nat) (c : Char) : Bool := low ≤ c.toNat && c.toNat ≤ high

/-- The byte that ends a message may be one of those that write a character. -/
def endsMessage (c : Char) : Bool := 0x80 ≤ c.toNat && (String.utf8EncodeChar c).contains 0x9C

namespace Control

def afterEscape (c : Char) : Control :=
  if isWithin 0x20 0x2F c then .intermediate
  else if c = '[' then .parameters
  else if c = 'P' then .deviceEntry
  else if c = ']' then .command
  else if c = 'X' || c = '^' || c = '_' then .message
  else if isWithin 0x30 0x7E c then .text
  else .escape

/-- Where a terminal stands after a character that it does not show. An escape begins a sequence
anew from anywhere, and a cancel or a substitute ends every one. -/
def next (control : Control) (c : Char) : Control :=
  if c.toNat = 0x1B then .escape
  else if c.toNat = 0x18 || c.toNat = 0x1A then .text
  else
    match control with
    | .text => .text
    | .escape => afterEscape c
    | .intermediate => if isWithin 0x30 0x7E c then .text else .intermediate
    | .parameters => if isWithin 0x40 0x7E c then .text else .parameters
    | .deviceEntry =>
        if isWithin 0x20 0x2F c then .deviceIntermediate
        else if isWithin 0x30 0x3F c then .deviceParameters
        else if isWithin 0x40 0x7E c then .message
        else .deviceEntry
    | .deviceParameters =>
        if isWithin 0x20 0x2F c then .deviceIntermediate
        else if isWithin 0x3C 0x7E c then .message
        else .deviceParameters
    | .deviceIntermediate =>
        if isWithin 0x30 0x7E c then .message else .deviceIntermediate
    | .command => if c.toNat = 0x07 then .text else .command
    | .message => if endsMessage c then .text else .message

def isLayout (c : Char) : Bool := c = '\t' || c = '\n' || c.toNat = 0x0C || c = '\r'

def shows (control : Control) (c : Char) : Bool :=
  match control with
  | .text => isLayout c || (0x20 ≤ c.toNat && c.toNat ≠ 0x7F)
  | .escape | .intermediate | .parameters => isLayout c
  | _ => false

/-- The characters shown from a place on. After a character for the layout the text shows again
up to the next control character, which goes on with the sequence that was left open; a character
outside ASCII closes it. -/
def shown (control : Control) (resumed : Bool) : List Char → List Char
  | [] => []
  | c :: cs =>
      if (if resumed then Control.text else control).shows c then
        c :: shown (if c.toNat < 0x80 then control else .text) true cs
      else shown (control.next c) false cs

end Control

/-- What a text shows where nothing acts on its control sequences: the text without them, and
without control characters other than tabs and the ends of lines and pages. -/
def visible (s : String) : String := String.ofList (Control.text.shown false s.toList)

end LineTopology.Text
