import Telescope.Text.Regex
import Telescope.Text.CharClass
import Telescope.Text.Edit
import Telescope.Text.Lines
import Telescope.Text.Integer
import Telescope.Text.Language
import Telescope.Data.Json
import Telescope.Data.Exception
import Telescope.Data.Sequence
import Telescope.Data.Store
import Telescope.Data.Run
import Telescope.Data.Activity
import Telescope.Data.Loop
import Telescope.Data.Polling
import Telescope.Data.Contract
import Telescope.Data.Interleaving
import Telescope.Data.ForkJoin
import Telescope.Data.Paging
import Telescope.Data.Forest
import Telescope.Data.Wire
import Telescope.Utils.Retries
import Telescope.Terraform.OperationMetadata
import Telescope.Terraform.LogLines
import Telescope.Terraform.RunAccounting
import Telescope.Terraform.ElapsedTime
import Telescope.Terraform.SequentialRuns
import Telescope.Crud.Operation
import Telescope.Crud.Results
import Telescope.Crud.Lifecycle
import Telescope.Machine.Readiness
import Telescope.Machine.Envelope
import Telescope.Machine.Batch
import Telescope.Machine.Agentpool
import Telescope.Machine.Scale
import Telescope.Eks.Account
import Telescope.Eks.Client
import Telescope.Eks.ScalingConfigs
import Telescope.Eks.TemplateLifecycle
import Telescope.Eks.TemplateMatch
import Telescope.Scaling.Plan
import Telescope.Scaling.Steps
import Telescope.Aks.NodePool
import Telescope.Eks.TimedScaling
import Telescope.Scaling.Agreement
import Telescope.Scaling.Durations
import Telescope.Kubernetes.Manifest
import Telescope.Kubernetes.Apply
import Telescope.Kubernetes.ObjectStore
import Telescope.Kubernetes.Undo
import Telescope.Kubernetes.Wait
import Telescope.Crud.JobWorkload
import Telescope.Kwok.Cluster
import Telescope.Kwok.Node
import Telescope.Kwok.Lifecycle
import Telescope.Clients.PodCommand
import Telescope.Clients.RoleSafety
import Telescope.Csi.AttachDetach
import Telescope.Csi.Metrics
import Telescope.Kubernetes.Quantity
import Telescope.Clusterloader2.Measurement
import Telescope.Clusterloader2.Reports
import Telescope.Clusterloader2.Junit
import Telescope.Clusterloader2.Autoscale
import Telescope.Clusterloader2.NodeResources
import Telescope.Clusterloader2.CpuRequest
import Telescope.Clusterloader2.Cri
import Telescope.Fio.Benchmark
import Telescope.Terraform.ModulePath
import Telescope.Utils.ProvisioningRetry
import Telescope.Utils.ProvisioningInstrumentation
import Telescope.Machine.ListMachines
import Telescope.Kubernetes.Expansion
import Telescope.Kubernetes.Exec
import Telescope.Kubernetes.ReadyNodes
import Telescope.Kubernetes.GpuResources
import Telescope.Kubernetes.VerificationPods
import Telescope.Data.Radix
import Telescope.Data.Statistics
import Telescope.Text.Substitution
import Telescope.Text.Float
import Telescope.Text.JsonText
import Telescope.Text.Columns
import Telescope.Utils.RetryContract
import Telescope.Kwok.Address
import Telescope.Kwok.Template
import Telescope.Machine.Names
import Telescope.Csi.Percentiles
import Telescope.Aks.Verification
import Telescope.Fio.Jobs
import Telescope.Iperf3.Parser
import Telescope.Kusto.SchemaInference
import Telescope.Gpu.Nccl
import Telescope.Text.PrefixCode
import Telescope.Pipelines.Disabling
import Telescope.Iperf3.ResultFiles
import Telescope.Iperf3.Collection
import Telescope.Data.Decision
import Telescope.Kubernetes.PodWaits
import Telescope.Data.Footprint
import Telescope.Crud.Workloads
import Telescope.Kwok.ConfigMap
import Telescope.Cloud.CapacityBlocks
import Telescope.Gpu.Execute
import Telescope.Kubernetes.ManifestUrl
import Telescope.AksStoreDemo.Deployment
import Telescope.Kubernetes.NodeCounts
import Telescope.Eks.NodeRole
