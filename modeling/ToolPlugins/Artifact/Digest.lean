import ToolPlugins.Artifact.Kind
import ToolPlugins.Text.Sha256

/-!
The digest of the artifacts of a plugin: the hash of the name and the body of every artifact, each
followed by a zero byte.
-/

namespace ToolPlugins.Artifacts

/-- The bytes that the digest is taken of. -/
def digestInput (a : Artifacts) : List UInt8 :=
  a.list.flatMap fun (kind, body) => Text.utf8Bytes kind.name ++ 0 :: Text.utf8Bytes body ++ [0]

def digest (a : Artifacts) : String := Sha256.hexDigest a.digestInput

end ToolPlugins.Artifacts
