import CNShell.Relay.Epoch
import CNShell.Relay.Leases
import CNShell.Relay.Owners
import CNShell.Relay.Admins
import CNShell.Relay.Capacity
import CNShell.Relay.Credentials
import CNShell.Relay.Frames
import CNShell.Relay.Repeats
import CNShell.Relay.Expiry
import CNShell.Client.Buffer
import CNShell.Client.Input
import CNShell.Client.Closing
import CNShell.Client.SharePreview
import CNShell.Team.Laws
import CNShell.Frontend.Settings
import CNShell.Frontend.Transfers
import CNShell.Frontend.Overwrites
import CNShell.Frontend.TypedText
import CNShell.Ssh.KnownHosts
import CNShell.Ssh.Transports
import CNShell.Ssh.Jumps
import CNShell.Ssh.Zmodem
import CNShell.Client.Atomicity
import CNShell.Mcp.Isolation
import CNShell.Mcp.Revocation
import CNShell.Mcp.LocalGrants
import CNShell.Mcp.Paging
import CNShell.Modem.Cancellation
import CNShell.Modem.Receiving
import CNShell.Client.Tunnels
import CNShell.Client.Batches
import CNShell.Client.Blanks
import CNShell.Client.Folders
import CNShell.Client.Scheduler
import CNShell.Client.WebDav
import CNShell.Client.SyncPackages
import CNShell.Client.Restore
import CNShell.Client.FileTransfers
import CNShell.Library.Paths
import CNShell.Plugin.Audit
import CNShell.Plugin.Network
import CNShell.Terminal.Telnet
import CNShell.Terminal.Handshake
import CNShell.Terminal.Finishing
import CNShell.Terminal.Shutdown
import CNShell.Sftp.Listing
import CNShell.Sftp.TextPages
import CNShell.Client.Imports
import CNShell.Client.WebDavProfiles
import CNShell.Client.TunnelClients
import CNShell.Client.TunnelBridge
import CNShell.Ssh.X11Bridge
import CNShell.Ssh.Sections
import CNShell.Ssh.Socks
import CNShell.Ssh.Commands
import CNShell.Sftp.Deletion
import CNShell.Sftp.Renaming
import CNShell.Client.SessionLines
import CNShell.Sftp.Atomicity
import CNShell.Sftp.Downloads
import CNShell.Sftp.TextWrites
import CNShell.Sftp.Tokens
import CNShell.Client.AutomationTransfers
import CNShell.Ssh.Wildcards
import CNShell.Frontend.Layout
import CNShell.Frontend.Triggers
import CNShell.Frontend.Completion
import CNShell.Ssh.Certificate
import CNShell.Client.PythonAutomation
import CNShell.Client.AutomationRuns
import CNShell.Frontend.Templates
