import LineTopology.Json.Basic

namespace LineTopology.Json

open Text

def hexDigit (n : Nat) : Char := Nat.digitChar n

def escaped (c : Char) : List Char :=
  if c = '"' then ['\\', '"']
  else if c = '\\' then ['\\', '\\']
  else if c.toNat = 0x08 then ['\\', 'b']
  else if c.toNat = 0x0C then ['\\', 'f']
  else if c = '\n' then ['\\', 'n']
  else if c = '\r' then ['\\', 'r']
  else if c = '\t' then ['\\', 't']
  else if c.toNat < 0x20 then
    ['\\', 'u', '0', '0', hexDigit (c.toNat / 16), hexDigit (c.toNat % 16)]
  else [c]

def stringChars (s : String) : List Char := '"' :: s.toList.flatMap escaped ++ ['"']

mutual

def chars : Json → List Char
  | .null => ['n', 'u', 'l', 'l']
  | .boolean true => ['t', 'r', 'u', 'e']
  | .boolean false => ['f', 'a', 'l', 's', 'e']
  | .number n => n.chars
  | .string s => stringChars s
  | .array [] => ['[', ']']
  | .array (x :: xs) => '[' :: chars x ++ itemChars xs
  | .object [] => ['\x7b', '\x7d']
  | .object ((k, v) :: ms) => '\x7b' :: stringChars k ++ ':' :: chars v ++ memberChars ms

def itemChars : List Json → List Char
  | [] => [']']
  | x :: xs => ',' :: chars x ++ itemChars xs

def memberChars : List (String × Json) → List Char
  | [] => ['\x7d']
  | (k, v) :: ms => ',' :: stringChars k ++ ':' :: chars v ++ memberChars ms

end

def compact (value : Json) : String := String.ofList value.chars

def lineBreak (depth : Nat) : List Char := '\n' :: List.replicate (2 * depth) ' '

mutual

def indentedChars (depth : Nat) : Json → List Char
  | .array (x :: xs) =>
      '[' :: lineBreak (depth + 1) ++ indentedChars (depth + 1) x ++ indentedItems depth xs
  | .object ((k, v) :: ms) =>
      '\x7b' :: lineBreak (depth + 1) ++ stringChars k ++ ':' :: ' ' ::
        indentedChars (depth + 1) v ++ indentedMembers depth ms
  | value => value.chars

def indentedItems (depth : Nat) : List Json → List Char
  | [] => lineBreak depth ++ [']']
  | x :: xs =>
      ',' :: lineBreak (depth + 1) ++ indentedChars (depth + 1) x ++ indentedItems depth xs

def indentedMembers (depth : Nat) : List (String × Json) → List Char
  | [] => lineBreak depth ++ ['\x7d']
  | (k, v) :: ms =>
      ',' :: lineBreak (depth + 1) ++ stringChars k ++ ':' :: ' ' ::
        indentedChars (depth + 1) v ++ indentedMembers depth ms

end

def indented (value : Json) : String := String.ofList (indentedChars 0 value)

end LineTopology.Json
