import Oak.Session.Config

namespace Oak.Session

open Oak.Data Oak.Crypto

/-! The channel encryptors of `encryptors.rs`, and the provider that a
configuration has by default. -/

structure OrderedChannelEncryptor (crypto : Primitives) where
  crypter : OrderedCrypter
deriving DecidableEq

def encryptionError (reason : NoiseError) : AnyError := s!"Encryption error: {reason.prettyDebug}"

namespace OrderedChannelEncryptor

variable {crypto : Primitives}

def encrypt (encryptor : OrderedChannelEncryptor crypto) (plaintext : Payload) :
    Outcome AnyError Payload × OrderedChannelEncryptor crypto :=
  let (result, crypter) := encryptor.crypter.encrypt crypto plaintext.message
  (Outcome.mapErr encryptionError ((Outcome.returned result).map Payload.ofBytes), { crypter })

def decrypt (encryptor : OrderedChannelEncryptor crypto) (ciphertext : Payload) :
    Outcome AnyError Payload × OrderedChannelEncryptor crypto :=
  let (result, crypter) := encryptor.crypter.decrypt crypto ciphertext.message
  (Outcome.mapErr encryptionError ((Outcome.returned result).map Payload.ofBytes), { crypter })

instance : Encryptor (OrderedChannelEncryptor crypto) where
  encrypt := encrypt
  decrypt := decrypt

end OrderedChannelEncryptor

def orderedChannelEncryptorProvider (crypto : Primitives) (crypter : OrderedCrypter) :
    Outcome AnyError (OrderedChannelEncryptor crypto) :=
  .ok { crypter }

end Oak.Session
