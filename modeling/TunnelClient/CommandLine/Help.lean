import TunnelClient.CommandLine.Arguments

/-!
# Help pages

The texts of the help pages and of the version.
-/

namespace TunnelClient.CommandLine

def versionText : String := "burrow-client 0.1.0\n"

def textOfLines (lines : List String) : String := "\n".intercalate lines ++ "\n"

def Page.text : Page → String
  | overview => textOfLines [
    "Burrow encrypted tunnel client",
    "",
    "Usage: burrow-client <COMMAND>",
    "",
    "Commands:",
    "  connect   Connect to the peer and relay traffic until interrupted",
    "  validate  Check a configuration file and print it with defaults filled in and key material redacted",
    "  genkey    Print a new random pre-shared key (base64)",
    "  help      Print this message or the help of the given subcommand(s)",
    "",
    "Options:",
    "  -h, --help     Print help",
    "  -V, --version  Print version"]
  | connect => textOfLines [
    "Connect to the peer and relay traffic until interrupted",
    "",
    "Usage: burrow-client connect [OPTIONS]",
    "",
    "Options:",
    "  -c, --config <CONFIG>  [default: /etc/burrow/client.toml]",
    "  -s, --server <SERVER>  Peer host, replaces `peer.host`",
    "  -p, --port <PORT>      Peer UDP port, replaces `peer.port`",
    "  -h, --help             Print help"]
  | validate => textOfLines [
    "Check a configuration file and print it with defaults filled in and key material redacted",
    "",
    "Usage: burrow-client validate [OPTIONS]",
    "",
    "Options:",
    "  -c, --config <CONFIG>  [default: /etc/burrow/client.toml]",
    "  -h, --help             Print help"]
  | generateKey => textOfLines [
    "Print a new random pre-shared key (base64)",
    "",
    "Usage: burrow-client genkey",
    "",
    "Options:",
    "  -h, --help  Print help"]
  | help => textOfLines [
    "Print this message or the help of the given subcommand(s)",
    "",
    "Usage: burrow-client help [COMMAND]...",
    "",
    "Arguments:",
    "  [COMMAND]...  Print help for the subcommand(s)"]

end TunnelClient.CommandLine
