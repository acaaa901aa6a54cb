import FleetOps.Failure
import FleetOps.Key.Armor
import FleetOps.Text.Quoted

/-! Credentials for one connection: a user and the methods of logging in, in the order in
which they are tried. A key comes before a password.
-/

namespace FleetOps

/-- A method of logging in. -/
inductive LoginMethod where
  | key (key : PrivateKey)
  | password (secret : String)

namespace LoginMethod

/-- The name of a method. -/
def name : LoginMethod → String
  | key _ => "key"
  | password _ => "password"

/-- The method of a key if the text is one, else of a password. -/
def ofKeyOrPassword (key password : String)
    (readKey : PrivateKey.Reader := PrivateKey.decode?)
    : LoginMethod :=
  match readKey key with
  | some decoded => .key decoded
  | none => .password password

/-- What methods that are tried one after the other are called together. -/
def sequenceName : String := "chain"

/-- How a password is shown, whatever it is. -/
def maskedPassword : String := "PasswordAuth(***)"

end LoginMethod

/-- A user and the methods of logging in. -/
structure Credentials where
  user : String
  methods : List LoginMethod

namespace Credentials

/-- The method of a key, unless the text is blank; a text that is no key is refused. -/
def keyMethods (key : String) (readKey : PrivateKey.Reader) : Except Failure (List LoginMethod) :=
  if Text.isBlankText key then .ok []
  else
    match readKey key with
    | some decoded => .ok [.key decoded]
    | none => .error .invalidKey

/-- The method of a password, unless it is empty. -/
def passwordMethods (password : String) : List LoginMethod :=
  if password.isEmpty then [] else [.password password]

/-- The credentials that a user, a key and a password give. Without either there is no
method, and the login fails when it is tried.
-/
def build (user key password : String) (readKey : PrivateKey.Reader := PrivateKey.decode?)
    : Except Failure Credentials :=
  match keyMethods key readKey with
  | .ok methods => .ok { user := user, methods := methods ++ passwordMethods password }
  | .error failure => .error failure

/-- The names of the methods, in the order in which they are tried. -/
def methodNames (credentials : Credentials) : List String := credentials.methods.map (·.name)

/-- Shows the user and the names of the methods, and none of the secrets. -/
def describe (credentials : Credentials) : String :=
  "ConnectionConfig \x7b user: " ++ Text.quoted credentials.user ++ ", methods: ["
    ++ String.intercalate ", " (credentials.methodNames.map Text.quoted) ++ "] \x7d"

end Credentials

end FleetOps
