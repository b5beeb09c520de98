/-!
# What the program is asked to do

The options at the start of the command line are looked through for the two questions that the
program answers by itself. The first of them decides, and everything else on the command line is
then left alone. A question counts only as a whole token among the options: behind the bucket, or
behind the token that ends the options, it is an operand like any other.
-/

namespace NbdAttach

/-- What the program is asked to do. -/
inductive Request
  | help
  | version
  | attach
deriving DecidableEq, Repr, Inhabited

namespace Request

/-- The options that are looked through: the tokens up to the first without a dash or to `--`. -/
def scanned : List String → List String
  | [] => []
  | token :: rest =>
    match token.toList with
    | ['-', '-'] => []
    | '-' :: _ => token :: scanned rest
    | _ => []

/-- The question that a token asks. -/
def ofToken? (token : String) : Option Request :=
  if token = "-h" ∨ token = "--help" then some .help
  else if token = "--version" then some .version
  else none

/-- What a command line asks for. -/
def ofArgs (args : List String) : Request :=
  ((scanned args).findSome? ofToken?).getD .attach

end Request

/-- How the program is used. -/
def usageText : String :=
"Usage:
    nbd-trampoline [--nbd] [options] [--] bucket device

NBD options:
    --nbd                  Accepted for compatibility with s3backer
    --nbd-flag=FLAG        Pass FLAG to nbdkit
    --nbd-param=NAME=VALUE Pass NAME=VALUE to the s3backer plugin

Other options:
    -d, --debug            Log debug output and stay in the foreground
    -f                     Stay in the foreground
    --readOnly             Attach the device read-only
    --NAME[=VALUE]         Any other s3backer flag, forwarded to the plugin
    -h, --help             Show this help
    --version              Show the version
"

/-- The name and the version of the program. -/
def versionText : String :=
  "nbd-trampoline 0.1.0\n"

end NbdAttach
