import ProcessDiagram.Text.Digest

/-! Older checksums of a text: MD5, SHA-1, and the cyclic one that counts the length in. -/
namespace ProcessDiagram.Text.Checksum

open Digest (rotate)

def pad (bigEndian : Bool) (message : List UInt8) : List UInt8 :=
  let n := message.length
  let size := (List.range 8).map fun i => UInt8.ofNat (8 * n / Nat.pow 256 i)
  message ++ 0x80 :: List.replicate ((119 - n % 64) % 64) 0 ++ (if bigEndian then size.reverse else size)

def littleWords : List UInt8 → List UInt32
  | b0 :: b1 :: b2 :: b3 :: rest =>
    (b3.toUInt32 <<< 24 ||| b2.toUInt32 <<< 16 ||| b1.toUInt32 <<< 8 ||| b0.toUInt32) :: littleWords rest
  | _ => []

/-- Blocks of sixteen words; the number bounds them. -/
def blocks : Nat → List UInt32 → List (List UInt32)
  | 0, _ => []
  | _, [] => []
  | n + 1, words => words.take 16 :: blocks n (words.drop 16)

def hexBytes (bytes : List UInt8) : String :=
  String.ofList (bytes.flatMap fun b => [Nat.digitChar (b.toNat / 16), Nat.digitChar (b.toNat % 16)])

/-! ### MD5 -/

def md5Turns : List (List UInt32) := [[7, 12, 17, 22], [5, 9, 14, 20], [4, 11, 16, 23], [6, 10, 15, 21]]

/-- The constants of the sixty-four steps: the leading fraction bits of the sines of the first whole numbers. -/
def md5Constants : List UInt32 := [
  0xd76aa478, 0xe8c7b756, 0x242070db, 0xc1bdceee, 0xf57c0faf, 0x4787c62a, 0xa8304613, 0xfd469501,
  0x698098d8, 0x8b44f7af, 0xffff5bb1, 0x895cd7be, 0x6b901122, 0xfd987193, 0xa679438e, 0x49b40821,
  0xf61e2562, 0xc040b340, 0x265e5a51, 0xe9b6c7aa, 0xd62f105d, 0x02441453, 0xd8a1e681, 0xe7d3fbc8,
  0x21e1cde6, 0xc33707d6, 0xf4d50d87, 0x455a14ed, 0xa9e3e905, 0xfcefa3f8, 0x676f02d9, 0x8d2a4c8a,
  0xfffa3942, 0x8771f681, 0x6d9d6122, 0xfde5380c, 0xa4beea44, 0x4bdecfa9, 0xf6bb4b60, 0xbebfbc70,
  0x289b7ec6, 0xeaa127fa, 0xd4ef3085, 0x04881d05, 0xd9d4d039, 0xe6db99e5, 0x1fa27cf8, 0xc4ac5665,
  0xf4292244, 0x432aff97, 0xab9423a7, 0xfc93a039, 0x655b59c3, 0x8f0ccc92, 0xffeff47d, 0x85845dd1,
  0x6fa87e4f, 0xfe2ce6e0, 0xa3014314, 0x4e0811a1, 0xf7537e82, 0xbd3af235, 0x2ad7d2bb, 0xeb86d391]

structure Quad where
  a : UInt32
  b : UInt32
  c : UInt32
  d : UInt32

def md5Step (words : List UInt32) (s : Quad) (i : Nat) (k : UInt32) : Quad :=
  let (mixed, j) : UInt32 × Nat := match i / 16 with
    | 0 => ((s.b &&& s.c) ||| (~~~s.b &&& s.d), i)
    | 1 => ((s.d &&& s.b) ||| (~~~s.d &&& s.c), (5 * i + 1) % 16)
    | 2 => (s.b ^^^ s.c ^^^ s.d, (3 * i + 5) % 16)
    | _ => (s.c ^^^ (s.b ||| ~~~s.d), 7 * i % 16)
  let turn := ((md5Turns.getD (i / 16) []).getD (i % 4) 0)
  let sum := s.a + mixed + k + words.getD j 0
  ⟨s.d, s.b + ((sum <<< turn) ||| (sum >>> (32 - turn))), s.b, s.c⟩

def md5 (message : List UInt8) : String :=
  let words := littleWords (pad false message)
  let s := (blocks words.length words).foldl (fun (s : Quad) block =>
    let t := md5Constants.zipIdx.foldl (fun t (k, i) => md5Step block t i k) s
    ⟨s.a + t.a, s.b + t.b, s.c + t.c, s.d + t.d⟩) ⟨0x67452301, 0xefcdab89, 0x98badcfe, 0x10325476⟩
  hexBytes ([s.a, s.b, s.c, s.d].flatMap fun w => [0, 8, 16, 24].map fun n => (w >>> n).toUInt8)

/-! ### SHA-1 -/

def turned (x n : UInt32) : UInt32 := rotate x (32 - n)

/-- The eighty words that follow from sixteen: each from four before it. -/
def schedule (block : List UInt32) : List UInt32 :=
  ((List.range 64).foldl (fun (back : List UInt32) _ =>
    turned (back.getD 2 0 ^^^ back.getD 7 0 ^^^ back.getD 13 0 ^^^ back.getD 15 0) 1 :: back) block.reverse).reverse

def sha1Step (s : Quad × UInt32) (i : Nat) (w : UInt32) : Quad × UInt32 :=
  let (q, e) := s
  let (mixed, k) : UInt32 × UInt32 := match i / 20 with
    | 0 => ((q.b &&& q.c) ||| (~~~q.b &&& q.d), 0x5a827999)
    | 1 => (q.b ^^^ q.c ^^^ q.d, 0x6ed9eba1)
    | 2 => ((q.b &&& q.c) ||| (q.b &&& q.d) ||| (q.c &&& q.d), 0x8f1bbcdc)
    | _ => (q.b ^^^ q.c ^^^ q.d, 0xca62c1d6)
  (⟨turned q.a 5 + mixed + e + k + w, q.a, turned q.b 30, q.c⟩, q.d)

def sha1 (message : List UInt8) : String :=
  let words := Digest.words (pad true message)
  let (s, e) := (blocks words.length words).foldl (fun (s : Quad × UInt32) block =>
    let (t, f) := (schedule block).zipIdx.foldl (fun t (w, i) => sha1Step t i w) s
    (⟨s.1.a + t.a, s.1.b + t.b, s.1.c + t.c, s.1.d + t.d⟩, s.2 + f))
    (⟨0x67452301, 0xefcdab89, 0x98badcfe, 0x10325476⟩, 0xc3d2e1f0)
  String.ofList ([s.a, s.b, s.c, s.d, e].flatMap Digest.hexText)

/-! ### Cyclic sums -/

def cyclicStep (sum : UInt32) (byte : UInt8) : UInt32 :=
  (List.range 8).foldl (fun s _ => if s >>> 31 = 1 then (s <<< 1) ^^^ 0x04c11db7 else s <<< 1)
    (sum ^^^ (byte.toUInt32 <<< 24))

def lengthBytes (n : Nat) : List UInt8 :=
  if h : n = 0 then [] else UInt8.ofNat (n % 256) :: lengthBytes (n / 256)
termination_by n
decreasing_by omega

def cyclic (message : List UInt8) : UInt32 := ~~~((message ++ lengthBytes message.length).foldl cyclicStep 0)

end ProcessDiagram.Text.Checksum
