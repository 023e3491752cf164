import Embedding.Guest.Syntax.Token

namespace Embedding.Guest

def Syntax.skipInterpreterLine (s : Syntax.Source) : Nat :=
  if s.at 0 = '#' && s.at 1 = '!' then s.skipWhile (fun c => !Syntax.isLineEnd c) 2 else 0

def SourceKind.detect (source : String) : SourceKind :=
  let chars : Syntax.Source := source.toList.toArray
  let skipped := (chars.extract 0 (Syntax.skipInterpreterLine chars)).toList
  let start := skipped.foldl (fun n c => n + c.utf8Size) 0
  let bytes := source.toUTF8
  let code (i : Nat) : Nat := if h : i < bytes.size then bytes[i].toNat else 0
  let fuel := bytes.size + 1
  match Syntax.glance code false fuel start with
  | (.exportWord, _) => .module
  | (.importWord, next) =>
    match (Syntax.glance code false fuel next).1 with
    | .other c => if c == 46 || c == 40 then .script else .module
    | _ => .module
  | _ => .script

end Embedding.Guest
