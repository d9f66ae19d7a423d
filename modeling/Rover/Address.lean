import Rover.Fault

/-!
# Addresses of web requests

What a request names: possibly a scheme and a host, then a path, a query and a fragment.
-/

namespace Rover

structure Address where
  host : Chars := []
  path : Chars := []
  query : Chars := []

namespace Address

def isDropped (c : Char) : Bool := c == '\t' || c == '\n' || c == '\r'

def isSchemeChar (c : Char) : Bool := c.isAlphanum || c == '+' || c == '-' || c == '.'

def dropScheme (cs : Chars) : Chars :=
  match cs, cs.dropWhile isSchemeChar with
  | c :: _, ':' :: rest => if c.isAlpha then rest else cs
  | _, _ => cs

def splitAt (isEnd : Char → Bool) (cs : Chars) : Chars × Chars :=
  (cs.takeWhile (!isEnd ·), cs.dropWhile (!isEnd ·))

def read (target : String) : Result Address := do
  let cs := (target.toList.dropWhile (·.toNat ≤ 32)).filter (!isDropped ·)
  let (host, cs) := match dropScheme cs with
    | '/' :: '/' :: rest => splitAt (fun c => c == '/' || c == '?' || c == '#') rest
    | cs => ([], cs)
  if host.contains '[' != host.contains ']' then throw (.unfit "Invalid IPv6 URL")
  let (path, query) := splitAt (· == '?') (splitAt (· == '#') cs).1
  return { host, path, query := query.drop 1 }

def unescape : Chars → Chars
  | '%' :: a :: b :: rest =>
    match Number.hexDigit? a, Number.hexDigit? b with
    | some x, some y =>
      if 16 * x + y < 128 then Char.ofNat (16 * x + y) :: unescape rest
      else '%' :: a :: b :: unescape rest
    | _, _ => '%' :: unescape (a :: b :: rest)
  | c :: rest => c :: unescape rest
  | [] => []
termination_by cs => cs.length

def joinSlashes : Chars → Chars
  | '/' :: '/' :: rest => '/' :: joinSlashes rest
  | c :: rest => c :: joinSlashes rest
  | [] => []

end Address

end Rover
