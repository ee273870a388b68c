/-!
Bytes as text: three bytes are four letters of an alphabet of 64, and what is left over is filled
up.
-/

namespace VectorIcon.Text.Base64

def alphabet : List Char :=
  "ABCDEFGHIJKLMNOPQRSTUVWXYZabcdefghijklmnopqrstuvwxyz0123456789+/".toList

def letter (value : Nat) : Char :=
  alphabet.getD (value % 64) 'A'

def padding : Char := '='

def encode : List UInt8 → List Char
  | [] => []
  | [first] =>
      let value := first.toNat * 16
      [letter (value / 64), letter value, padding, padding]
  | [first, second] =>
      let value := (first.toNat * 256 + second.toNat) * 4
      [letter (value / 4096), letter (value / 64), letter value, padding]
  | first :: second :: third :: rest =>
      let value := (first.toNat * 256 + second.toNat) * 256 + third.toNat
      letter (value / 262144) :: letter (value / 4096) :: letter (value / 64) :: letter value ::
        encode rest

example : encode [255, 239, 190, 1] = "/+++AQ==".toList := by decide

end VectorIcon.Text.Base64
