import FrameGrabber.Sink.Snapshot

/-!
# Image files

A snapshot is written as a PNG file of eight bits a channel. The pixels are
stored as they are, row by row behind a filter byte of zero, in blocks that the
format has for data that is not compressed; every reader of PNG takes them. Two
check sums guard the file: one over each chunk, one over the pixels.
-/

namespace FrameGrabber
namespace Png

/-- A 32-bit word, the high byte first. -/
def word (n : UInt32) : Bytes :=
  #[(n >>> 24).toUInt8, (n >>> 16).toUInt8, (n >>> 8).toUInt8, n.toUInt8]

/-- The divisor of the cyclic check sum. -/
def crcBase : UInt32 := 0xedb88320

def crcBit (c : UInt32) : UInt32 := if c &&& 1 = 1 then crcBase ^^^ (c >>> 1) else c >>> 1

def crcByte (c : UInt32) (b : UInt8) : UInt32 := Nat.repeat crcBit 8 (c ^^^ b.toUInt32)

def crc (data : Bytes) : UInt32 := data.foldl crcByte 0xffffffff ^^^ 0xffffffff

/-- The modulus of the other check sum. -/
def adlerBase : UInt32 := 65521

/-- The check sum of the pixels: the sum of the bytes, and the sum of those sums. -/
def adler (data : Bytes) : UInt32 :=
  let step (s : UInt32 × UInt32) (b : UInt8) : UInt32 × UInt32 :=
    let low := (s.1 + b.toUInt32) % adlerBase
    (low, (s.2 + low) % adlerBase)
  let (low, high) := data.foldl step (1, 0)
  (high <<< 16) ||| low

/-- A chunk: its length, its name, its data and their check sum. -/
def chunk (name data : Bytes) : Bytes :=
  word data.size.toUInt32 ++ name ++ data ++ word (crc (name ++ data))

/-- The most bytes that one stored block holds. -/
def blockSize : Nat := 65535

/-- A stored block; the last one says so. -/
def block (last : Bool) (data : Bytes) : Bytes :=
  let size := data.size.toUInt16
  let rest := size ^^^ 0xffff
  #[if last then 1 else 0, size.toUInt8, (size >>> 8).toUInt8, rest.toUInt8, (rest >>> 8).toUInt8]
    ++ data

def stored (data : Bytes) : Bytes :=
  let count := max 1 ((data.size + blockSize - 1) / blockSize)
  let blocks := (List.range count).map fun i =>
    block (i + 1 = count) (data.extract (i * blockSize) ((i + 1) * blockSize))
  #[0x78, 0x01] ++ blocks.foldl (· ++ ·) #[] ++ word (adler data)

/-- The pixels, each row behind its filter byte. -/
def rows (i : Image) : Bytes :=
  let width := i.width.toNat * 3
  (List.range i.height.toNat).foldl
    (fun b y => b.push 0 ++ i.pixels.extract (y * width) ((y + 1) * width)) #[]

def tag (s : String) : Bytes := s.toUTF8.data

def encode (i : Image) : Bytes :=
  let signature : Bytes := #[0x89, 0x50, 0x4e, 0x47, 0x0d, 0x0a, 0x1a, 0x0a]
  let header := word i.width ++ word i.height ++ #[8, 2, 0, 0, 0]
  signature ++ chunk (tag "IHDR") header ++ chunk (tag "IDAT") (stored (rows i))
    ++ chunk (tag "IEND") #[]

end Png
end FrameGrabber
