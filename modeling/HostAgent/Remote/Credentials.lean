import HostAgent.Config.Basic
import HostAgent.Host.World
import HostAgent.Text.Quoted

/-!
# `HostAgent.Remote.Credentials` — who the agent says it is

With the certificate method nothing is needed. With the basic method the user name and the
password each come from the environment (`HOSTWATCH_USERNAME`, `HOSTWATCH_PASSWORD`) when the
variable is set, else from the settings; an empty value counts as missing, and a variable set to
the empty string hides the setting. Both are required, and a missing one is reported before any
call to the network.

The debugging form of credentials never shows the password.
-/

namespace HostAgent.Remote

open HostAgent.Config

/-- The variable that overrides the user name. -/
def usernameVar : String := "HOSTWATCH_USERNAME"

/-- The variable that overrides the password. -/
def passwordVar : String := "HOSTWATCH_PASSWORD"

/-- Resolved credentials. -/
inductive Credentials where
  | basic (username password : String)
  | cert
  deriving Repr, DecidableEq, Inhabited

/-- The debugging form: the user name quoted, the password redacted. -/
def Credentials.debugText : Credentials → String
  | .basic username _ =>
    "Basic \x7b username: " ++ Text.debugQuote username ++ ", password: \"<redacted>\" \x7d"
  | .cert => "Cert"

/-- A value from the environment when the variable is set, else from the settings; empty is
missing. -/
def pick (fromEnv fromConfig : Option String) : Option String :=
  match fromEnv.orElse fun _ => fromConfig with
  | some s => if s.isEmpty then none else some s
  | none => none

/-- The credentials that the settings and the environment give. -/
def resolveCredentials (c : AgentConfig) : Agent Credentials := do
  match c.authMethod with
  | .cert => pure .cert
  | .basic =>
    let username := pick (← Agent.env? usernameVar) c.username
    let password := pick (← Agent.env? passwordVar) c.password
    match username, password with
    | some u, some p =>
      Agent.debug ("Using BASIC authentication as " ++ u)
      pure (.basic u p)
    | _, _ =>
      throw (.missingCredentials
        "Username and password must be defined in configuration file with BASIC authentication method.")

end HostAgent.Remote
