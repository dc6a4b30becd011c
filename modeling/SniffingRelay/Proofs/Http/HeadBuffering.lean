import SniffingRelay.Proofs.Http.HeadIntake

set_option autoImplicit false

namespace SniffingRelay.Http

/-- Two readings of the same bytes come to the same end at the same byte, however the bytes arrive
and however many of them one read takes. Nothing is lost on the way. Reading line by line from a
buffer comes to the same, and leaves the same in the buffer. -/
theorem head_ignores_buffering {capacity capacity' : Nat} {bytes : List UInt8}
    {source source' : Recording} (positive : 0 < capacity) (positive' : 0 < capacity')
    (gives : source.Gives bytes) (gives' : source'.Gives bytes) :
    ((headReader capacity').run {} source').result = ((headReader capacity).run {} source).result ∧
      ((headReader capacity').run {} source').used = ((headReader capacity).run {} source).used ∧
      ((headReader capacity).run {} source).source.heard.toList =
        ((headReader capacity).run {} source).used ++ ((headReader capacity).run {} source).spare ∧
      ((headReader capacity).run {} source).source.heard.toList ++
        ((headReader capacity).run {} source).source.remaining = bytes ∧
      ((headReader capacity).run {} source).spare.length ≤ capacity ∧
      readHead capacity { source } =
        (((headReader capacity).run {} source).result,
          { source := ((headReader capacity).run {} source).source
            spare := ((headReader capacity).run {} source).spare }) := by
  obtain ⟨rest, concluded, split⟩ := Reader.conclude_run (lively_headReader positive) trivial gives
  -- The grammar does not know of a capacity, so both readings are measured by it.
  have alike : (headReader capacity').conclude {} bytes =
      (((headReader capacity).run {} source).result, rest) := by
    rw [← concluded, conclude_head, conclude_head]
  obtain ⟨result, used⟩ :=
    Reader.run_of_conclude (lively_headReader positive') trivial gives' split alike
  have small : ((headReader capacity).run {} source).spare.length ≤ capacity :=
    Reader.length_spare_run_le (fun _ => Nat.le_refl capacity) _ source
  exact ⟨result, used, (Reader.used_append_spare gives.fresh).symm,
    Reader.heard_append_remaining gives, small, readHead_eq positive source⟩

def plainHead : List UInt8 := "GET /\r\nHost: a\r\n\r\nbody".toUTF8.data.toList

def wholeSource : Recording where
  ahead := [.bytes plainHead]

def brokenSource : Recording where
  ahead :=
    [.bytes (plainHead.take 6), .fault ⟨.interrupted, none⟩, .bytes ((plainHead.drop 6).take 11),
      .bytes (plainHead.drop 17)]

theorem brokenSource_ignores_buffering :
    wholeSource.Gives plainHead ∧ brokenSource.Gives plainHead ∧
      ((headReader 3).run {} brokenSource).result = ((headReader 1024).run {} wholeSource).result ∧
      ((headReader 3).run {} brokenSource).used = ((headReader 1024).run {} wholeSource).used ∧
      ((headReader 1024).run {} wholeSource).spare.length ≤ 1024 ∧
      (readHead 1024 { source := wholeSource }).1 = .ok ⟨"a", true⟩ ∧
      (readHead 1024 { source := wholeSource }).2.spare = "body".toUTF8.data.toList := by
  have positive : 0 < 1024 := by decide
  have positive' : 0 < 3 := by decide
  have gives : wholeSource.Gives plainHead := ⟨rfl, by decide +kernel, by decide +kernel⟩
  have gives' : brokenSource.Gives plainHead := ⟨rfl, by decide +kernel, by decide +kernel⟩
  obtain ⟨result, used, -, -, small, layered⟩ :=
    head_ignores_buffering positive positive' gives gives'
  have host : ((headReader 1024).run {} wholeSource).result = .ok ⟨"a", true⟩ := by
    cbv
  have body : ((headReader 1024).run {} wholeSource).spare = "body".toUTF8.data.toList := by
    cbv
  rw [layered]
  exact ⟨gives, gives', result, used, small, host, body⟩

end SniffingRelay.Http
