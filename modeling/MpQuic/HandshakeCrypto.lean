import MpQuic.HandshakeMessage
import MpQuic.Lib.Outcome

/-!
# Keys, certificates and signals of the handshake (`internal/crypto`)

The cryptographic functions are values of these types, about which nothing is
assumed: a key is any partial function from packets to plaintexts, a key exchange
any partial function on public values.  Deriving a key cannot fail:
`DeriveQuicCryptoAESKeys` expands its input to two keys of 16 bytes and two IVs of
4 bytes, the lengths `NewAEADAESGCM12` asks for.

The handshake tells the session on a channel which keys have become available, and
closes the channel when it is complete.  In Go, sending on a closed channel and
closing it again are panics.
-/
namespace MpQuic
open Systems

/-- The arguments of `AEAD.Open`. -/
structure Ciphertext where
  src : List Byte
  packetNumber : Nat
  associatedData : List Byte
  deriving DecidableEq, Repr

/-- `crypto.AEAD`, as far as opening is concerned: the plaintext, or nothing on an error. -/
abbrev AEAD := Ciphertext → Option (List Byte)

/-- `crypto.KeyExchange`. -/
structure KeyExchange where
  publicKey : List Byte
  calculateSharedKey : List Byte → Option (List Byte)

/-- The arguments of a `QuicCryptoKeyDerivationFunction`. -/
structure KeyMaterial where
  forwardSecure : Bool
  sharedSecret : List Byte
  nonces : List Byte
  connID : Nat
  chlo : List Byte
  scfg : List Byte
  cert : List Byte
  divNonce : List Byte
  pers : Perspective

/-- The channel `aeadChanged`: the levels sent on it, and whether it is closed. -/
structure AEADChanged where
  sent : List EncryptionLevel := []
  closed : Bool := false

namespace AEADChanged

/-- `aeadChanged <- level`. -/
def send (c : AEADChanged) (level : EncryptionLevel) : Outcome AEADChanged HandshakeError :=
  if c.closed then (c, some (.panic .sendOnClosedChannel))
  else ({ c with sent := c.sent ++ [level] }, none)

/-- `close(aeadChanged)`. -/
def close (c : AEADChanged) : Outcome AEADChanged HandshakeError :=
  if c.closed then (c, some (.panic .closeOfClosedChannel)) else ({ c with closed := true }, none)

end AEADChanged

/-- A key that opens the packets which start with a given byte. -/
def AEAD.sample (b : Byte) : AEAD := fun p => if p.src.head? = some b then some p.src.tail else none

/-- A key exchange with one shared secret. -/
def KeyExchange.sample : KeyExchange := ⟨List.replicate 32 7, fun _ => some [9]⟩

/-- Keys that open packets starting with 1, and with 2 if they are forward secure. -/
def KeyMaterial.sampleKey (m : KeyMaterial) : AEAD := .sample (if m.forwardSecure then 2 else 1)

end MpQuic
