/-! # Prime factors

A number is divided by small primes first. What is left is tested for being a prime, and otherwise divided by a
factor that a walk through its residues comes upon. -/
namespace Tangle.Prime

/-- `base ^ exponent` modulo a number. -/
def powerMod (modulus : Nat) : Nat → (base exponent : Nat) → Nat
  | 0, _, _ => 1 % modulus
  | n + 1, base, exponent =>
    if exponent = 0 then 1 % modulus
    else
      let half := powerMod modulus n (base * base % modulus) (exponent / 2)
      if exponent % 2 = 1 then half * base % modulus else half

/-- The small numbers that a prime is tested with, which is enough for numbers of up to 81 binary digits. -/
def witnesses : List Nat := [2, 3, 5, 7, 11, 13, 17, 19, 23, 29, 31, 37, 41]

/-- How often a number can be halved, and the odd number that is left. -/
def halvings : Nat → Nat → Nat × Nat
  | 0, n => (0, n)
  | k + 1, n =>
    if n % 2 = 0 ∧ 0 < n then
      let (s, d) := halvings k (n / 2)
      (s + 1, d)
    else (0, n)

/-- Whether repeated squares of a residue come to minus one. -/
def reachesMinusOne (n : Nat) : Nat → (x : Nat) → Bool
  | 0, _ => false
  | k + 1, x => x == n - 1 || reachesMinusOne n k (x * x % n)

def isPrime (n : Nat) : Bool :=
  if n < 2 then false
  else if witnesses.contains n then true
  else if witnesses.any (n % · == 0) then false
  else
    let (s, d) := halvings (n.log2 + 1) (n - 1)
    witnesses.all fun a =>
      let x := powerMod n (n.log2 + 2) a d
      x == 1 || reachesMinusOne n s x

/-- A factor that two walks, one twice as fast as the other, come upon. -/
def walk (n c : Nat) : Nat → (slow fast : Nat) → Option Nat
  | 0, _, _ => none
  | k + 1, slow, fast =>
    let next (x : Nat) : Nat := (x * x + c) % n
    let slow := next slow
    let fast := next (next fast)
    let d := Nat.gcd (if slow < fast then fast - slow else slow - fast) n
    if d = 1 then walk n c k slow fast
    else if d = n then none
    else some d

/-- A factor of a number that is not a prime. -/
def factor? (n : Nat) : Option Nat := (List.range 20).findSome? fun c => walk n (c + 1) 4000000 2 2

/-- The prime factors of a number without small ones, as far as they can be found. -/
def largeFactors : Nat → Nat → List Nat
  | 0, n => [n]
  | k + 1, n =>
    if n < 2 then []
    else if isPrime n then [n]
    else
      match factor? n with
      | some d => largeFactors k d ++ largeFactors k (n / d)
      | none => [n]

/-- Divides by a number as often as possible. -/
def divided (p : Nat) : Nat → Nat → List Nat × Nat
  | 0, n => ([], n)
  | k + 1, n =>
    if 0 < n ∧ n % p = 0 then
      let (ps, rest) := divided p k (n / p)
      (p :: ps, rest)
    else ([], n)

/-- The prime factors of a number, the smallest first. -/
def factors (n : Nat) : List Nat :=
  let (small, rest) := (2 :: (List.range 2000).map (2 * · + 3)).foldl (fun (acc : List Nat × Nat) p =>
    if acc.2 < p then acc
    else
      let (ps, rest) := divided p (acc.2.log2 + 1) acc.2
      (acc.1 ++ ps, rest)) (([], n) : List Nat × Nat)
  small ++ (largeFactors (rest.log2 + 1) rest).mergeSort

end Tangle.Prime
