import HttpsServerSim.Protocol.Types

/-!
# The TLS layer under the protocol handlers

The HTTP handlers see `TlsHandler` only through its result codes and byte counts,
so they are written over any layer with these operations. `PlainTls` is the layer
of a healthy connection as the handlers see it: a plaintext byte stream that
answers `EAGAIN` when nothing is pending, and to which every write succeeds in full.
-/

namespace HttpsServerSim

universe u

/-- The operations of `TlsHandler` that the protocol handlers call. `read` is given the size of
the caller's buffer and returns the bytes put there; `write` returns how many bytes it took. -/
class TlsLayer (Tls : Type u) where
  init : Tls → ProtocolStatus × Tls
  read : Tls → ℕ → ProtocolStatus × Bytes × Tls
  write : Tls → Bytes → ProtocolStatus × ℕ × Tls
  close : Tls → Tls

/-- A plaintext byte stream: what has arrived and not been read, and the writes so far. -/
structure PlainTls where
  pending : Bytes := []
  written : List Bytes := []
deriving DecidableEq, Repr

namespace PlainTls

def arrive (tls : PlainTls) (bytes : Bytes) : PlainTls :=
  { tls with pending := tls.pending ++ bytes }

instance : TlsLayer PlainTls where
  init _ := (.ok, {})
  read tls len :=
    if tls.pending.isEmpty then (.eagain, [], tls)
    else (.ok, tls.pending.take len, { tls with pending := tls.pending.drop len })
  write tls bytes := (.ok, bytes.length, { tls with written := tls.written ++ [bytes] })
  close tls := tls

@[simp]
theorem write_eq (tls : PlainTls) (bytes : Bytes) :
    TlsLayer.write tls bytes =
      (.ok, bytes.length, { tls with written := tls.written ++ [bytes] }) :=
  rfl

theorem length_read_le (tls : PlainTls) (len : ℕ) :
    (TlsLayer.read tls len).2.1.length ≤ len := by
  simp only [TlsLayer.read]
  split_ifs
  · exact Nat.zero_le len
  · exact List.length_take_le len tls.pending

end PlainTls

/-- A TLS layer with a record of what was handed to it. -/
structure Observed (Tls : Type u) where
  inner : Tls
  sent : List Bytes := []

namespace Observed

variable {Tls : Type u} [TlsLayer Tls]

/-- The layer after a write. -/
def hand (tls : Observed Tls) (bytes : Bytes) : Observed Tls where
  inner := (TlsLayer.write tls.inner bytes).2.2
  sent := tls.sent ++ [bytes]

instance : TlsLayer (Observed Tls) where
  init tls :=
    let (ret, inner) := TlsLayer.init tls.inner
    (ret, { tls with inner := inner })
  read tls len :=
    let (ret, bytes, inner) := TlsLayer.read tls.inner len
    (ret, bytes, { tls with inner := inner })
  write tls bytes :=
    let (ret, written, _) := TlsLayer.write tls.inner bytes
    (ret, written, tls.hand bytes)
  close tls := { tls with inner := TlsLayer.close tls.inner }

end Observed

end HttpsServerSim
