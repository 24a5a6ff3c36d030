import PipelineShell.Text.Bytes
import PipelineShell.Text.Cluster

/-!
# Reading lines

Input that is not a terminal is read in blocks, and lines are taken from what
has been read.  Programs that the shell starts read on after the last block.
A backspace in a line takes away the cluster before it.
-/

namespace PipelineShell.LineReader

def blockSize : Nat := 8192

def lineFeed : UInt8 := 10

def carriageReturn : UInt8 := 13

/-- The first line of an input with its end, if the input is not empty. -/
def rawLine (input : Bytes) : Bytes :=
  input.take ((input.takeWhile (· != lineFeed)).length + 1)

/-- Take one line from a buffer and, if it holds no whole line, from as many
blocks as are needed: the line with its end, the new buffer, and the input
behind it. -/
def takeLine (buffered rest : Bytes) : Option (Bytes × Bytes × Bytes) :=
  let input := buffered ++ rest
  if input.isEmpty then none
  else
    let line := rawLine input
    if line.length ≤ buffered.length then some (line, buffered.drop line.length, rest)
    else
      let beyond := line.length - buffered.length
      let filled := (beyond + (blockSize - 1)) / blockSize * blockSize
      some (line, (rest.take filled).drop beyond, rest.drop filled)

theorem takeLine_length_lt {buffered rest line buffered' rest' : Bytes}
    (h : takeLine buffered rest = some (line, buffered', rest')) :
    buffered'.length + rest'.length < buffered.length + rest.length := by
  have hpos : ∀ input : Bytes, input.isEmpty = false → 0 < (rawLine input).length := by
    intro input hinput
    cases input with
    | nil => simp at hinput
    | cons b bs => simp [rawLine]
  simp only [takeLine] at h
  split at h
  · simp at h
  · rename_i hne
    have hline := hpos (buffered ++ rest) (by simpa using hne)
    have hle : (rawLine (buffered ++ rest)).length ≤ buffered.length + rest.length := by
      simp only [rawLine, List.length_take, List.length_append]
      omega
    split at h
    · rename_i hbuf
      simp only [Option.some.injEq, Prod.mk.injEq] at h
      obtain ⟨_, hb, hr⟩ := h
      subst hb hr
      simp only [List.length_drop]
      omega
    · rename_i hbuf
      simp only [Option.some.injEq, Prod.mk.injEq] at h
      obtain ⟨_, hb, hr⟩ := h
      subst hb hr
      simp only [List.length_drop, List.length_take, blockSize]
      omega

/-- A line without its end: a line feed and a carriage return before it. -/
def dropEnd (cs : List Char) : List Char :=
  match cs.reverse with
  | '\n' :: '\r' :: body => body.reverse
  | '\n' :: body => body.reverse
  | _ => cs

/-- Drop characters of so many bytes from a text whose latest character is first. -/
def dropBytes : Nat → List Char → List Char
  | _, [] => []
  | n, c :: cs => if n = 0 then c :: cs else dropBytes (n - c.utf8Size) cs

/-- What is left of a text, latest character first, and the sizes of its
clusters.  A size is kept in one byte. -/
structure Erasure where
  text : List Char
  sizes : List Nat

def Erasure.step (e : Erasure) (cluster : List Char) : Erasure :=
  if cluster = ['\x08'] then
    match e.sizes with
    | [] => e
    | size :: sizes => ⟨dropBytes size e.text, sizes⟩
  else
    ⟨cluster.reverse ++ e.text, (cluster.map Char.utf8Size).foldl (· + ·) 0 % 256 :: e.sizes⟩

/-- Carry out the backspaces of a line. -/
def erase (cs : List Char) : List Char :=
  if cs.contains '\x08' then
    ((Text.clusters cs).foldl Erasure.step ⟨[], []⟩).text.reverse
  else cs

/-- The line that was typed, if it is UTF-8. -/
def line? (raw : Bytes) : Option String :=
  raw.text?.map fun s => String.ofList (erase (dropEnd s.toList))

end PipelineShell.LineReader
