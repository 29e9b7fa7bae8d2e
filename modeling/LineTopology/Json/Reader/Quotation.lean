import LineTopology.Json.Reader.Cursor

namespace LineTopology.Json

open Text

/-- Where the reader of a quoted text stands between two characters. A `lead` is the first half of a
surrogate pair. -/
inductive Quotation
  | plain
  | escape
  | hex (seen value : Nat) (lead : Option Nat)
  | secondEscape (lead : Nat)
  | secondMark (lead : Nat)

namespace Quotation

def simpleEscape? (c : Char) : Option Char :=
  if c = '"' || c = '\\' || c = '/' then some c
  else if c = 'b' then some (Char.ofNat 0x08)
  else if c = 'f' then some (Char.ofNat 0x0C)
  else if c = 'n' then some '\n'
  else if c = 'r' then some '\r'
  else if c = 't' then some '\t'
  else none

def isLead (n : Nat) : Bool := 0xD800 ≤ n && n ≤ 0xDBFF

def isTrail (n : Nat) : Bool := 0xDC00 ≤ n && n ≤ 0xDFFF

def paired (lead trail : Nat) : Char :=
  Char.ofNat (0x10000 + (lead - 0xD800) * 0x400 + (trail - 0xDC00))

/-- A hexadecimal escape always takes four bytes, whatever they are, if so many are left. -/
def brokenHex (seen : Nat) (cs : List Char) (used : Nat) : Fault :=
  let bytes := (cs.take 4).foldl (fun n c => n + c.utf8Size) 0
  if seen + bytes < 4 then ⟨.endOfString, used + bytes⟩ else ⟨.invalidEscape, used + (4 - seen)⟩

def read : Quotation → List Char → List Char → Nat → Except Fault (String × Cursor)
  | _, _, [], used => .error ⟨.endOfString, used⟩
  | .plain, acc, x :: r, used =>
      if x = '"' then .ok (String.ofList acc.reverse, ⟨r, used + 1⟩)
      else if x = '\\' then read .escape acc r (used + 1)
      else if x.toNat < 0x20 then .error ⟨.controlCharacter, used + 1⟩
      else read .plain (x :: acc) r (used + x.utf8Size)
  | .escape, acc, x :: r, used =>
      if x = 'u' then read (.hex 0 0 none) acc r (used + 1)
      else
        match simpleEscape? x with
        | some y => read .plain (y :: acc) r (used + 1)
        | none => .error ⟨.invalidEscape, used + 1⟩
  | .hex seen value lead, acc, x :: r, used =>
      match hexValue? x with
      | none => .error (brokenHex seen (x :: r) used)
      | some d =>
          let n := 16 * value + d
          if seen < 3 then read (.hex (seen + 1) n lead) acc r (used + 1)
          else
            match lead with
            | none =>
                if isTrail n then .error ⟨.loneSurrogate, used + 1⟩
                else if isLead n then read (.secondEscape n) acc r (used + 1)
                else read .plain (Char.ofNat n :: acc) r (used + 1)
            | some l =>
                if isTrail n then read .plain (paired l n :: acc) r (used + 1)
                else .error ⟨.loneSurrogate, used + 1⟩
  | .secondEscape lead, acc, x :: r, used =>
      if x = '\\' then read (.secondMark lead) acc r (used + 1)
      else .error ⟨.brokenSurrogate, used + 1⟩
  | .secondMark lead, acc, x :: r, used =>
      if x = 'u' then read (.hex 0 0 (some lead)) acc r (used + 1)
      else .error ⟨.brokenSurrogate, used + 1⟩

/-- Passes over a quoted text. Surrogates need not pair, and a control character is not consumed. -/
def skip : Quotation → List Char → Nat → Except Fault Cursor
  | _, [], used => .error ⟨.endOfString, used⟩
  | .plain, x :: r, used =>
      if x = '"' then .ok ⟨r, used + 1⟩
      else if x = '\\' then skip .escape r (used + 1)
      else if x.toNat < 0x20 then .error ⟨.controlCharacter, used⟩
      else skip .plain r (used + x.utf8Size)
  | .hex seen _ _, x :: r, used =>
      if (hexValue? x).isNone then .error (brokenHex seen (x :: r) used)
      else if seen < 3 then skip (.hex (seen + 1) 0 none) r (used + 1)
      else skip .plain r (used + 1)
  | _, x :: r, used =>
      if x = 'u' then skip (.hex 0 0 none) r (used + 1)
      else if (simpleEscape? x).isSome then skip .plain r (used + 1)
      else .error ⟨.invalidEscape, used + 1⟩

end Quotation

def quotation (c : Cursor) :
    Except Fault (String × Cursor) := Quotation.read .plain [] c.rest c.used

def skipQuotation (c : Cursor) : Except Fault Cursor := Quotation.skip .plain c.rest c.used

end LineTopology.Json
