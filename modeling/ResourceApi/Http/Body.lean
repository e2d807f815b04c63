import ResourceApi.Text.Utf8

/-!
# Bodies

An answer is written whole or not at all, so its body is one frame or none. The body of a request arrives in chunks
and may break off.
-/

namespace ResourceApi

/-- The body of an answer: the bytes still to be sent. -/
structure Body where
  content : Bytes
  deriving DecidableEq

namespace Body

/-- A body without content. -/
def empty : Body := ⟨[]⟩

/-- Whether nothing is left to be sent. -/
def isFinished (b : Body) : Bool :=
  b.content.isEmpty

/-- The number of bytes still to be sent, which is announced before them. -/
def size (b : Body) : Nat :=
  b.content.length

/-- Take the next frame: all that is left, if anything is. -/
def next (b : Body) : Option Bytes × Body :=
  if b.content.isEmpty then (none, b) else (some b.content, empty)

end Body

/-- A part of the body of a request as it comes in. -/
inductive Chunk where
  /-- Some bytes. -/
  | data (bytes : Bytes)
  /-- The body breaks off, for a reason. -/
  | failure (reason : String)
  deriving DecidableEq

/-- The bytes of all chunks, or the reason why the body broke off. -/
def Chunk.collect : List Chunk → Except String Bytes
  | [] => .ok []
  | .data bytes :: rest => (collect rest).map (bytes ++ ·)
  | .failure reason :: _ => .error reason

end ResourceApi
