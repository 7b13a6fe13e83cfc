/-!
# Base64 text

Bytes in the URL-safe alphabet: three bytes give four characters, and a shorter last group is
filled up with equals signs.
-/

namespace ValidatorReader.Bytes

/-- The character of a number below 64 in the URL-safe alphabet. -/
def base64Char (n : Nat) : Char :=
  if n < 26 then Char.ofNat (65 + n)
  else if n < 52 then Char.ofNat (71 + n)
  else if n < 62 then Char.ofNat (n - 4)
  else if n == 62 then '-'
  else '_'

def base64Chars : List UInt8 → List Char
  | [] => []
  | [a] =>
    let n := a.toNat
    [base64Char (n / 4), base64Char (n % 4 * 16), '=', '=']
  | [a, b] =>
    let n := 256 * a.toNat + b.toNat
    [base64Char (n / 1024), base64Char (n / 16 % 64), base64Char (n % 16 * 4), '=']
  | a :: b :: c :: rest =>
    let n := 65536 * a.toNat + 256 * b.toNat + c.toNat
    base64Char (n / 262144) :: base64Char (n / 4096 % 64) :: base64Char (n / 64 % 64) ::
      base64Char (n % 64) :: base64Chars rest

def toBase64 (bytes : List UInt8) : String :=
  String.ofList (base64Chars bytes)

end ValidatorReader.Bytes
