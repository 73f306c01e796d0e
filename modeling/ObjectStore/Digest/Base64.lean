import ObjectStore.Bytes
/-!
# Base64

The standard alphabet of RFC 4648 with padding, in which a digest travels in a header.
-/

namespace ObjectStore.Digest

def base64Alphabet : List Char :=
  "ABCDEFGHIJKLMNOPQRSTUVWXYZabcdefghijklmnopqrstuvwxyz0123456789+/".toList

def base64Digit (n : Nat) : Char := base64Alphabet.getD n '='

/-- Three bytes are four characters; a shorter rest is padded with `=`. -/
def base64Chars : Bytes → List Char
  | a :: b :: c :: l =>
    let n := a.toNat * 65536 + b.toNat * 256 + c.toNat
    [n / 262144, n / 4096 % 64, n / 64 % 64, n % 64].map base64Digit ++ base64Chars l
  | [a, b] =>
    let n := a.toNat * 1024 + b.toNat * 4
    [n / 4096, n / 64 % 64, n % 64].map base64Digit ++ ['=']
  | [a] => [a.toNat / 4, a.toNat % 4 * 16].map base64Digit ++ ['=', '=']
  | [] => []

def base64 (b : Bytes) : String := String.ofList (base64Chars b)

end ObjectStore.Digest
