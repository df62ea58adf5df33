import SshTunnel.Digest.Sha1

/-!
# Keyed digests

`hmacSha1 key message` is the keyed digest of a message: the digest is taken twice, each time after
the key, filled up to a block and changed by a constant.
-/

namespace SshTunnel.Digest

def keyBlock (key : Bytes) : Bytes :=
  let short := if blockSize < key.length then sha1 key else key
  short ++ List.replicate (blockSize - short.length) 0

def hmacSha1 (key message : Bytes) : Bytes :=
  let block := keyBlock key
  let inner := sha1 (block.map (· ^^^ 0x36) ++ message)
  sha1 (block.map (· ^^^ 0x5C) ++ inner)

theorem length_hmacSha1 (key message : Bytes) : (hmacSha1 key message).length = 20 :=
  length_sha1 _

end SshTunnel.Digest
