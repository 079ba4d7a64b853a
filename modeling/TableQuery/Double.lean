import TableQuery.Text.Digits

/-!
Double precision numbers, told apart by their bits.
-/

namespace TableQuery

structure Double where
  bits : UInt64
deriving DecidableEq

namespace Double

def ofFloat (x : Float) : Double where
  bits := x.toBits

-- The nearest double; exact up to 2 ^ 53.
def ofInt (n : Int) : Double :=
  match n with
  | .ofNat k   => ofFloat (UInt64.ofNat k).toFloat
  | .negSucc k => ofFloat (-(UInt64.ofNat (k + 1)).toFloat)

-- The bits as 16 hexadecimal digits.
def hex (x : Double) : String :=
  Text.hexadecimal 16 x.bits.toNat

-- The exact value in decimal digits. A finite double is `m * 2 ^ q`, and where `q` is negative
-- that is `m * 5 ^ (-q)` over a power of ten.
def decimal (x : Double) : String :=
  let sign := if x.bits < 0x8000000000000000 then "" else "-"
  let exponent := (x.bits >>> 52 &&& 0x7ff).toNat
  let fraction := (x.bits &&& 0xfffffffffffff).toNat
  let m := if exponent = 0 then fraction else fraction + 0x10000000000000
  let q : Int := if exponent = 0 then -1074 else (exponent : Int) - 1075
  match q with
  | .ofNat k   => sign ++ toString (m * Nat.pow 2 k) ++ ".0"
  | .negSucc k => sign ++ toString (m * Nat.pow 5 (k + 1)) ++ "e-" ++ toString (k + 1)

end Double

end TableQuery
