import EzDotnet.Lib.Machine
import EzDotnet.Lib.Ledger
import EzDotnet.Lib.Horner
import EzDotnet.Lib.FsPath
import EzDotnet.Lib.Registry
import EzDotnet.Lib.Ownership
import EzDotnet.Lib.Outcome
import EzDotnet.Lib.Separated
import EzDotnet.Common.Strings
import EzDotnet.Common.Interface
import EzDotnet.Common.HashTheorems
import EzDotnet.Common.Emitted
import EzDotnet.Common.Handles
import EzDotnet.Common.Domains
import EzDotnet.CoreCLR.Hostfxr
import EzDotnet.CoreCLR.Plugins
import EzDotnet.CoreCLR.PluginsTheorems
import EzDotnet.CoreCLR.SingletonTheorems
import EzDotnet.CoreCLR.LifecycleTheorems
import EzDotnet.Mono.Host
import EzDotnet.Mono.HostTheorems
import EzDotnet.Mono.DisciplineTheorems
import EzDotnet.Mono.DispatchTheorems
import EzDotnet.MonoCoreClr.Json
import EzDotnet.MonoCoreClr.DepsJson
import EzDotnet.MonoCoreClr.DepsJsonTheorems
import EzDotnet.MonoCoreClr.Host
import EzDotnet.MonoCoreClr.HostTheorems
import EzDotnet.MonoCoreClr.DocumentTheorems
import EzDotnet.MonoCoreClr.MainAssemblyTheorems
import EzDotnet.MonoCoreClr.TrustedAssembliesTheorems
import EzDotnet.CLRHost.Host
import EzDotnet.CLRHost.HostTheorems
import EzDotnet.Backends.Registries
import EzDotnet.Backends.RunMethod
import EzDotnet.Cli.Ezdotnet
import EzDotnet.Cli.EzdotnetTheorems
import EzDotnet.Managed.Program
import EzDotnet.Managed.ProgramTheorems
import EzDotnet.MonoCoreClr.RuntimeTheorems
import EzDotnet.Backends.Leftovers
import EzDotnet.Backends.NullHandle
import EzDotnet.CoreCLR.WidePaths
import EzDotnet.Lib.Tagged
import EzDotnet.MonoCoreClr.AssetsTheorems
import EzDotnet.MonoCoreClr.TpaEncoding
import EzDotnet.MonoCoreClr.DepsPath
import EzDotnet.Backends.NearPaths
import EzDotnet.MonoCoreClr.TypeNames
import EzDotnet.Mono.ThreadTheorems
import EzDotnet.CoreCLR.HostfxrPath
import EzDotnet.MonoCoreClr.Lowercase
import EzDotnet.Lib.Lifetime
import EzDotnet.Mono.LifetimeTheorems
import EzDotnet.CLRHost.LifetimeTheorems
import EzDotnet.Lib.Simulation
import EzDotnet.Common.Cygwin
import EzDotnet.CLRHost.Process
import EzDotnet.Lib.Protocol
import EzDotnet.CoreCLR.ProtocolTheorems
import EzDotnet.MonoCoreClr.ProtocolTheorems
import EzDotnet.Backends.Leaks
import EzDotnet.MonoCoreClr.FrameTheorems
import EzDotnet.CLRHost.AssemblyResolve
import EzDotnet.Cli.Loader
import EzDotnet.Backends.Driver
import EzDotnet.Managed.Entry
import EzDotnet.Mono.ProtocolTheorems
import EzDotnet.Backends.CygwinDriver
import EzDotnet.CoreCLR.DispatchTheorems
import EzDotnet.MonoCoreClr.DispatchTheorems
import EzDotnet.CLRHost.DispatchTheorems
