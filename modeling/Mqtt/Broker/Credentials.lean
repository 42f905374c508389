import Mqtt.Bytes
import Mqtt.Text.Utf8

/-!
# Credentials

Who may open a session. A check sees a user name and a password; those that a client leaves out
count as empty.
-/

namespace Mqtt

/-- Decides whether a user name and a password open a session. -/
abbrev CredentialCheck := String → Bytes → Bool

namespace CredentialCheck

/-- Accept every client. -/
def anyone : CredentialCheck := fun _ _ => true

/-- Accept one user name with one password. -/
def only (userName : String) (password : Bytes) : CredentialCheck :=
  fun u p => u == userName && p == password

/-- Accept every user name that starts with `start`. -/
def userNameStartsWith (start : String) : CredentialCheck :=
  fun u _ => start.toList.isPrefixOf u.toList

end CredentialCheck

end Mqtt
