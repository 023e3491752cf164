import Embedding.Double.Decimal

namespace Embedding.Json

inductive Value where
  | null
  | bool (b : Bool)
  | int (n : Int)
  | float (d : Double)
  | string (s : String)
  | array (items : List Value)
  | object (members : List (String × Value))
deriving Inhabited

def hexDigit (n : Nat) : Char := "0123456789abcdef".toList.getD n '0'

def escaped (c : Char) : List Char :=
  if c = '"' then ['\\', '"']
  else if c = '\\' then ['\\', '\\']
  else if c = '\n' then ['\\', 'n']
  else if c = '\r' then ['\\', 'r']
  else if c = '\t' then ['\\', 't']
  else if c.toNat = 8 then ['\\', 'b']
  else if c.toNat = 12 then ['\\', 'f']
  else if c.toNat < 32 then ['\\', 'u', '0', '0', hexDigit (c.toNat / 16), hexDigit (c.toNat % 16)]
  else [c]

def quoted (s : String) : String := String.ofList ('"' :: s.toList.flatMap escaped ++ ['"'])

namespace Value

def commaJoined : List String → String
  | [] => ""
  | [s] => s
  | s :: rest => s ++ "," ++ commaJoined rest

mutual

def text : Value → String
  | null => "null"
  | bool b => if b then "true" else "false"
  | int n => toString n
  | float d => d.format .json
  | string s => quoted s
  | array items => "[" ++ commaJoined (itemTexts items) ++ "]"
  | object members => "\x7b" ++ commaJoined (memberTexts members) ++ "\x7d"

def itemTexts : List Value → List String
  | [] => []
  | v :: rest => text v :: itemTexts rest

def memberTexts : List (String × Value) → List String
  | [] => []
  | (name, v) :: rest => (quoted name ++ ":" ++ text v) :: memberTexts rest

end

def nameLe (a b : String × α) : Bool := decide (a.1 < b.1) || a.1 == b.1

def ofMembers (members : List (String × Value)) : Value := object (members.mergeSort nameLe)

end Value

end Embedding.Json
