import OrgOutline.Json.Basic

/-!
# When two values are the same

Two values are the same when they differ only in the order of keys and in the spelling of numbers, where `true` and `false`
count as one and zero.
-/

namespace OrgOutline
namespace Json

/-- Whether two numbers are equal, whatever their spelling. -/
def sameNumber : Json → Json → Bool
  | .float a, .float b => a.same b
  | .float a, y => match y.asInt? with
    | some n => a.eqInt n
    | none => false
  | x, .float b => match x.asInt? with
    | some n => b.eqInt n
    | none => false
  | x, y => x.asInt?.isSome && x.asInt? == y.asInt?

mutual
/-- Whether two values are the same up to the order of keys and the spelling of numbers. -/
def same : Json → Json → Bool
  | .null, .null => true
  | .str s, .str t => s == t
  | .arr xs, .arr ys => sameItems xs ys
  | .obj ms, .obj ns => ms.length == ns.length && sameMembers ms ns
  | .bool b, y => sameNumber (.bool b) y
  | .int n, y => sameNumber (.int n) y
  | .float x, y => sameNumber (.float x) y
  | _, _ => false

/-- Whether two arrays hold the same values in the same order. -/
def sameItems : List Json → List Json → Bool
  | [], [] => true
  | x :: xs, y :: ys => same x y && sameItems xs ys
  | _, _ => false

/-- Whether every member of the first list stands in the second under its key. -/
def sameMembers : List (String × Json) → List (String × Json) → Bool
  | [], _ => true
  | (k, v) :: ms, ns =>
    (match ns.lookup k with
      | some w => same v w
      | none => false) && sameMembers ms ns
end

end Json
end OrgOutline
