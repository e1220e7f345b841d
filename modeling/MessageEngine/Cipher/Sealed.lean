import MessageEngine.Cipher.ChaCha20
import MessageEngine.Cipher.Poly1305
import MessageEngine.Text
import MessageEngine.Transform

/-!
# The sealing transform

A sealed payload is a nonce, the enciphered octets and a tag over them.  It
opens only under the key it was sealed with, and only if nothing was changed.
-/

namespace MessageEngine

namespace Cipher

def nonceSize : Nat := 24

def tagSize : Nat := 16

/-- Zeros up to a multiple of sixteen octets. -/
def padding (b : Bytes) : Bytes := List.replicate ((16 - b.length % 16) % 16) 0

/-- What the tag is computed over; nothing but the enciphered octets is authenticated. -/
def authenticated (ciphertext : Bytes) : Bytes :=
  ciphertext ++ padding ciphertext ++ Bytes.le 8 0 ++ Bytes.le 8 ciphertext.length

/-- The key and the short nonce that a long nonce stands for. -/
def expand (key nonce : Bytes) : Bytes × Bytes :=
  (ChaCha20.subkey key (nonce.take 16), [0, 0, 0, 0] ++ nonce.drop 16)

def sealTag (key nonce ciphertext : Bytes) : Bytes :=
  let (key, nonce) := expand key nonce
  Poly1305.tag ((ChaCha20.block key 0 nonce).take 32) (authenticated ciphertext)

/-- Combine data with the key stream; doing it twice gives the data back. -/
def stream (key nonce data : Bytes) : Bytes :=
  let (key, nonce) := expand key nonce
  ChaCha20.apply key nonce data

/-- The nonce, the enciphered octets and the tag. -/
def encipher (key nonce data : Bytes) : Bytes :=
  let ciphertext := stream key nonce data
  nonce ++ ciphertext ++ sealTag key nonce ciphertext

/-- The octets sealed in a payload. -/
def decipher (key sealedData : Bytes) : Except DecodeFailure Bytes :=
  if ¬ sealedData.holds nonceSize then
    .error (.refused (.transform "encrypted payload shorter than nonce"))
  else
    let nonce := sealedData.take nonceSize
    let body := sealedData.drop nonceSize
    let ciphertext := body.take (body.length - tagSize)
    let tag := body.drop (body.length - tagSize)
    if tag.length = tagSize ∧ tag = sealTag key nonce ciphertext then
      .ok (stream key nonce ciphertext)
    else .error (.refused (.transform "decryption failed"))

end Cipher

/-- Authenticated encryption under a key of 32 octets. -/
def Transform.sealing (key : Bytes) : Transform where
  name := "xchacha20poly1305"
  encode nonce data := .ok (Cipher.encipher key nonce.toBytes data)
  decode := Cipher.decipher key

/-- The key is not shown. -/
def Transform.describeSealing : String := "ChaChaTransform \x7b .. \x7d"

end MessageEngine
