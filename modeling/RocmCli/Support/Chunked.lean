import Mathlib.Data.List.Basic

namespace RocmCli
namespace Chunked

/-!
# Input that comes in chunks

A decoder turns a front of its input into items and holds the rest back.  If it
can go on from what it held back, the items do not depend on where the input was
cut.
-/

universe u v

structure Decoder (Input : Type u) (Output : Type v) where
  decode : List Input -> List Output × List Input
  resume : forall front back, decode (front ++ back) =
    ((decode front).1 ++ (decode ((decode front).2 ++ back)).1,
      (decode ((decode front).2 ++ back)).2)

namespace Decoder

variable {Input : Type u} {Output : Type v} (decoder : Decoder Input Output)

/-- What is held back has no items yet. -/
theorem decode_held (input : List Input) :
    decoder.decode (decoder.decode input).2 = ([], (decoder.decode input).2) := by
  have again := decoder.resume input []
  rw [List.append_nil, List.append_nil] at again
  have items := congrArg Prod.fst again
  have held := congrArg Prod.snd again
  exact Prod.ext (List.self_eq_append_right.mp items) held.symm

/-- Decode the chunks one after the other. -/
def feed (held : List Input) : List (List Input) -> List Output × List Input
  | [] => ([], held)
  | chunk :: chunks =>
      let (items, held) := decoder.decode (held ++ chunk)
      let (later, held) := feed held chunks
      (items ++ later, held)

/-- Where the input is cut makes no difference. -/
theorem feed_eq {held : List Input} (nothing : decoder.decode held = ([], held))
    (chunks : List (List Input)) : decoder.feed held chunks = decoder.decode (held ++ chunks.flatten) := by
  induction chunks generalizing held with
  | nil => rw [List.flatten_nil, List.append_nil, nothing, feed]
  | cons chunk chunks ih =>
    rw [feed, List.flatten_cons, ← List.append_assoc, decoder.resume (held ++ chunk),
      ← ih (decoder.decode_held _)]

end Decoder
end Chunked
end RocmCli
