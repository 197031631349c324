import NoxSsh.Cli.Arguments
import NoxSsh.Cli.Config
import NoxSsh.Cli.AliveFailure
import NoxSsh.Cli.ExitStatus
import NoxSsh.Cli.IdentityFile
import NoxSsh.Cli.KnownHosts
import NoxSsh.Cli.ServerAlive
import NoxSsh.Cli.Trust
import NoxSsh.Client.Aborted
import NoxSsh.Client.Delivery
import NoxSsh.Client.KeySchedule
import NoxSsh.Client.Nesting
import NoxSsh.Client.Reuse
import NoxSsh.Daemon.AuthorizedKeys
import NoxSsh.Daemon.HostKeyText
import NoxSsh.Daemon.Identity
import NoxSsh.Daemon.Wakeup
import NoxSsh.Protocol.Command
import NoxSsh.Protocol.ExchangeHash
import NoxSsh.Protocol.Identification
import NoxSsh.Protocol.InFlight
import NoxSsh.Protocol.Integrity
import NoxSsh.Protocol.KeyStream
import NoxSsh.Protocol.Negotiation
import NoxSsh.Protocol.Requests
import NoxSsh.Protocol.Transcript
import NoxSsh.Protocol.Windows
import NoxSsh.Server.Admission
import NoxSsh.Server.Prelogin
import NoxSsh.Server.Completion
import NoxSsh.Server.Deadline
import NoxSsh.Server.Drain
import NoxSsh.Server.Echo
import NoxSsh.Server.Keepalive
import NoxSsh.Server.LateInput
import NoxSsh.Server.Reset
import NoxSsh.Transport.Counter
import NoxSsh.Wire.Codec
import NoxSsh.Wire.Namelist
import NoxSsh.Wire.StringView
